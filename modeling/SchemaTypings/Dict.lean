/-! # Dictionaries in order of first insertion

Keys keep the place at which they first appeared, whatever is written to them later.  JSON
objects, property tables and the table of followed references are all dictionaries of this kind,
because the order of a schema document shows in the declarations made from it.
-/
namespace SchemaTypings

/-- **A dictionary that remembers insertion order**: entries from first to last. -/
abbrev Dict (α : Type) := List (String × α)

namespace Dict

variable {α β : Type}

/-- The value under `key`, if there is one. -/
def get? : Dict α → String → Option α
  | [], _ => none
  | (k, v) :: rest, key => if k = key then some v else get? rest key

/-- Writes `value` under `key`: in place if the key is known, at the end otherwise. -/
def insert : Dict α → String → α → Dict α
  | [], key, value => [(key, value)]
  | (k, v) :: rest, key, value =>
    if k = key then (k, value) :: rest else (k, v) :: insert rest key value

/-- The dictionary without `key`; the other entries keep their order. -/
def erase (d : Dict α) (key : String) : Dict α :=
  d.filter fun entry => entry.1 ≠ key

/-- Whether some entry has this key. -/
def contains (d : Dict α) (key : String) : Bool :=
  d.any fun entry => entry.1 = key

/-- The keys, in order. -/
def keys (d : Dict α) : List String := d.map Prod.fst

/-- The values, in order. -/
def values (d : Dict α) : List α := d.map Prod.snd

/-- Writes every entry of `other` into `d`, in order. -/
def extend (d other : Dict α) : Dict α :=
  other.foldl (fun acc entry => acc.insert entry.1 entry.2) d

/-- The dictionary that results from writing the entries one after the other. -/
def ofEntries (entries : List (String × α)) : Dict α := extend [] entries

@[simp] theorem get?_nil (key : String) : get? ([] : Dict α) key = none := rfl

theorem get?_cons (k : String) (v : α) (rest : Dict α) (key : String) :
    get? ((k, v) :: rest) key = if k = key then some v else get? rest key := rfl

@[simp] theorem get?_insert_self (d : Dict α) (key : String) (value : α) :
    (d.insert key value).get? key = some value := by
  induction d with
  | nil => simp [insert, get?]
  | cons entry rest ih =>
    obtain ⟨k, v⟩ := entry
    by_cases h : k = key <;> simp [insert, get?, h, ih]

theorem get?_insert_of_ne (d : Dict α) {key other : String} (value : α) (h : key ≠ other) :
    (d.insert key value).get? other = d.get? other := by
  induction d with
  | nil => simp [insert, get?, h]
  | cons entry rest ih =>
    obtain ⟨k, v⟩ := entry
    by_cases hk : k = key
    · subst hk; simp [insert, get?, h]
    · simp [insert, get?, hk, ih]

/-- A key is present exactly when it is among the keys. -/
theorem contains_iff_mem_keys (d : Dict α) (key : String) :
    d.contains key = true ↔ key ∈ d.keys := by
  simp [contains, keys, List.any_eq_true, List.mem_map]

/-- Looking a key up succeeds exactly for the keys of the dictionary. -/
theorem get?_isSome_iff_mem_keys (d : Dict α) (key : String) :
    (d.get? key).isSome = true ↔ key ∈ d.keys := by
  induction d with
  | nil => simp [keys]
  | cons entry rest ih =>
    obtain ⟨k, v⟩ := entry
    by_cases h : k = key
    · simp [get?, keys, h]
    · simp only [get?, h, if_false, ih, keys, List.map_cons, List.mem_cons]
      constructor
      · exact Or.inr
      · rintro (rfl | h')
        · exact absurd rfl h
        · exact h'

/-- A key that is not there has no value. -/
theorem get?_eq_none_of_not_mem {d : Dict α} {key : String} (h : key ∉ d.keys) :
    d.get? key = none :=
  Option.not_isSome_iff_eq_none.1 fun hsome => h ((get?_isSome_iff_mem_keys d key).1 hsome)

/-- Under distinct keys every entry is the one that its key finds. -/
theorem get?_of_mem {d : Dict α} (h : d.keys.Nodup) {key : String} {value : α}
    (hmem : (key, value) ∈ d) : d.get? key = some value := by
  induction d with
  | nil => cases hmem
  | cons entry rest ih =>
    obtain ⟨k, v⟩ := entry
    obtain ⟨hnot, hrest⟩ := List.nodup_cons.1 h
    rcases List.mem_cons.1 hmem with heq | hmem
    · cases heq
      simp [get?]
    · have hne : k ≠ key := by
        rintro rfl
        exact hnot (List.mem_map.2 ⟨_, hmem, rfl⟩)
      rw [get?_cons, if_neg hne]
      exact ih hrest hmem

theorem mem_of_get? {d : Dict α} {key : String} {value : α}
    (h : d.get? key = some value) : (key, value) ∈ d := by
  induction d with
  | nil => cases h
  | cons entry rest ih =>
    obtain ⟨k, v⟩ := entry
    rw [get?_cons] at h
    split at h
    · next heq =>
      cases h
      exact heq ▸ List.mem_cons_self
    · exact List.mem_cons_of_mem _ (ih h)

theorem get?_snoc (d : Dict α) (entry : String × α) (key : String) :
    Dict.get? (d ++ [entry]) key =
      (d.get? key).or (if entry.1 = key then some entry.2 else none) := by
  induction d with
  | nil => rfl
  | cons first rest ih =>
    obtain ⟨k, v⟩ := first
    rw [List.cons_append, get?_cons, get?_cons, ih]
    split <;> rfl

/-- Changing values keeps what stands under which key. -/
theorem get?_mapValues (f : String → α → β) (d : Dict α) (key : String) :
    Dict.get? (d.map fun entry => (entry.1, f entry.1 entry.2)) key = (d.get? key).map (f key) := by
  induction d with
  | nil => rfl
  | cons entry rest ih =>
    rw [List.map_cons, get?_cons, get?_cons]
    split
    · next heq =>
      rw [heq]
      rfl
    · exact ih

/-- Writing keeps the keys and their order, and adds an unknown key at the end. -/
theorem keys_insert (d : Dict α) (key : String) (value : α) :
    (d.insert key value).keys = if key ∈ d.keys then d.keys else d.keys ++ [key] := by
  induction d with
  | nil => simp [insert, keys]
  | cons entry rest ih =>
    obtain ⟨k, v⟩ := entry
    by_cases h : k = key
    · simp [insert, keys, h]
    · have h' : ¬ key = k := fun e => h e.symm
      simp only [keys] at ih
      by_cases hm : key ∈ List.map Prod.fst rest <;> simp [insert, keys, h, h', ih, hm]

/-- Writing keeps keys pairwise distinct. -/
theorem nodup_keys_insert {d : Dict α} (h : d.keys.Nodup) (key : String) (value : α) :
    (d.insert key value).keys.Nodup := by
  rw [keys_insert]
  split
  · exact h
  · next hm =>
    rw [List.nodup_append]
    refine ⟨h, by simp, ?_⟩
    intro a ha b hb hab
    simp only [List.mem_singleton] at hb
    exact hm (hb ▸ hab ▸ ha)

theorem keys_insert_of_get? {d : Dict α} {key : String} {value : α}
    (h : d.get? key = some value) (other : α) : (d.insert key other).keys = d.keys := by
  rw [keys_insert, if_pos]
  exact (get?_isSome_iff_mem_keys d key).1 (by rw [h]; rfl)

theorem insert_of_not_mem {d : Dict α} {key : String} (h : key ∉ d.keys) (value : α) :
    d.insert key value = d ++ [(key, value)] := by
  induction d with
  | nil => rfl
  | cons entry rest ih =>
    rw [keys, List.map_cons, List.mem_cons, not_or] at h
    rw [insert, if_neg fun heq => h.1 heq.symm, ih h.2]
    rfl

theorem mem_insert {d : Dict α} {key : String} {value : α} {entry : String × α}
    (h : entry ∈ d.insert key value) : entry ∈ d ∨ entry = (key, value) := by
  induction d with
  | nil => exact Or.inr (List.mem_singleton.1 h)
  | cons first rest ih =>
    rw [insert] at h
    split at h
    · next heq =>
      rcases List.mem_cons.1 h with h | h
      · exact Or.inr (heq ▸ h)
      · exact Or.inl (List.mem_cons_of_mem _ h)
    · rcases List.mem_cons.1 h with h | h
      · exact Or.inl (h ▸ List.mem_cons_self)
      · exact (ih h).imp_left (List.mem_cons_of_mem _)

theorem mem_insert_of_ne {d : Dict α} {key : String} {value : α}
    {entry : String × α} (hne : entry.1 ≠ key) : entry ∈ d.insert key value ↔ entry ∈ d := by
  induction d with
  | nil =>
    rw [insert, List.mem_singleton]
    constructor
    · rintro rfl
      exact absurd rfl hne
    · intro h
      cases h
  | cons first rest ih =>
    obtain ⟨k, v⟩ := first
    rw [insert]
    split
    · next heq =>
      have hfirst : ∀ w, entry ≠ (k, w) := by
        rintro w rfl
        exact hne heq
      simp only [List.mem_cons, hfirst, false_or]
    · rw [List.mem_cons, List.mem_cons, ih]

theorem get?_erase_of_ne (d : Dict α) {key other : String} (h : key ≠ other) :
    (d.erase key).get? other = d.get? other := by
  induction d with
  | nil => rfl
  | cons entry rest ih =>
    obtain ⟨k, v⟩ := entry
    simp only [erase] at ih ⊢
    by_cases hk : k = key
    · rw [List.filter_cons_of_neg (by simpa using hk), ih, get?_cons, if_neg (hk ▸ h)]
    · rw [List.filter_cons_of_pos (by simpa using hk), get?_cons, get?_cons, ih]

/-- Nothing is under a key that was dropped. -/
@[simp] theorem get?_erase_self (d : Dict α) (key : String) :
    (d.erase key).get? key = none := by
  rw [← Option.not_isSome_iff_eq_none, get?_isSome_iff_mem_keys]
  simp [erase, keys]

/-- Dropping a key drops what was written under it. -/
@[simp] theorem erase_insert (d : Dict α) (key : String) (value : α) :
    (d.insert key value).erase key = d.erase key := by
  induction d with
  | nil => simp [insert, erase]
  | cons entry rest ih =>
    obtain ⟨k, v⟩ := entry
    by_cases h : k = key
    · simp [insert, erase, h]
    · simpa [insert, erase, h] using ih

theorem erase_insert_of_ne (d : Dict α) {key other : String} (h : key ≠ other)
    (value : α) : (d.insert key value).erase other = (d.erase other).insert key value := by
  induction d with
  | nil => simp [insert, erase, h]
  | cons entry rest ih =>
    obtain ⟨k, v⟩ := entry
    simp only [erase] at ih ⊢
    by_cases hk : k = key
    · subst hk
      rw [insert, if_pos rfl, List.filter_cons_of_pos (by simpa using h),
        List.filter_cons_of_pos (by simpa using h), insert, if_pos rfl]
    · rw [insert, if_neg hk]
      by_cases hother : k = other
      · rw [List.filter_cons_of_neg (by simpa using hother),
          List.filter_cons_of_neg (by simpa using hother), ih]
      · rw [List.filter_cons_of_pos (by simpa using hother),
          List.filter_cons_of_pos (by simpa using hother), insert, if_neg hk, ih]

theorem erase_comm (d : Dict α) (key other : String) :
    (d.erase key).erase other = (d.erase other).erase key := by
  simp only [erase, List.filter_filter]
  exact List.filter_congr fun entry _ => Bool.and_comm ..

@[simp] theorem erase_erase_self (d : Dict α) (key : String) :
    (d.erase key).erase key = d.erase key := by
  simp [erase]

/-- What is among the values after writing was there or was written. -/
theorem mem_values_insert {d : Dict α} {key : String} {value part : α}
    (h : part ∈ (d.insert key value).values) : part ∈ d.values ∨ part = value := by
  induction d with
  | nil =>
    rw [Dict.insert] at h
    exact Or.inr (List.mem_singleton.1 h)
  | cons entry rest ih =>
    rw [Dict.insert] at h
    split at h
    · rcases List.mem_cons.1 h with h | h
      · exact Or.inr h
      · exact Or.inl (List.mem_cons_of_mem _ h)
    · rcases List.mem_cons.1 h with h | h
      · exact Or.inl (h ▸ List.mem_cons_self ..)
      · exact (ih h).imp_left (List.mem_cons_of_mem _)

theorem mem_values_extend {d other : Dict α} {part : α}
    (h : part ∈ (d.extend other).values) : part ∈ d.values ∨ part ∈ other.values := by
  induction other generalizing d with
  | nil => exact Or.inl h
  | cons entry rest ih =>
    rcases ih (d := d.insert entry.1 entry.2) h with h | h
    · rcases mem_values_insert h with h | h
      · exact Or.inl h
      · exact Or.inr (h ▸ List.mem_cons_self ..)
    · exact Or.inr (List.mem_cons_of_mem _ h)

theorem mem_keys_extend {d other : Dict α} {key : String} (h : key ∈ (d.extend other).keys) :
    key ∈ d.keys ∨ key ∈ other.keys := by
  induction other generalizing d with
  | nil => exact .inl h
  | cons entry rest ih =>
    rcases ih (d := d.insert entry.1 entry.2) h with h | h
    · rw [keys_insert] at h
      split at h
      · exact .inl h
      · rcases List.mem_append.1 h with h | h
        · exact .inl h
        · exact .inr (List.mem_singleton.1 h ▸ List.mem_cons_self)
    · exact .inr (List.mem_cons_of_mem _ h)

/-- Unknown keys follow those that are known. -/
theorem extend_of_disjoint {d other : Dict α} (hother : other.keys.Nodup)
    (hnew : ∀ key ∈ other.keys, key ∉ d.keys) : d.extend other = d ++ other := by
  induction other generalizing d with
  | nil => exact (List.append_nil d).symm
  | cons entry rest ih =>
    obtain ⟨hnot, hrest⟩ := List.nodup_cons.1 hother
    have hinsert := insert_of_not_mem (hnew entry.1 List.mem_cons_self) entry.2
    have hstep : d.extend (entry :: rest) = (d ++ [entry]).extend rest :=
      congrArg (extend · rest) hinsert
    rw [hstep, ih hrest fun key hkey hmem => ?_, List.append_assoc]
    · rfl
    · rw [keys, List.map_append, List.mem_append] at hmem
      rcases hmem with hmem | hmem
      · exact hnew key (List.mem_cons_of_mem _ hkey) hmem
      · exact hnot (List.mem_singleton.1 hmem ▸ hkey)

end Dict
end SchemaTypings
