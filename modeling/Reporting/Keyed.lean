/-!
# Keyed tables

A table from text keys to values that remembers the order in which its keys first came. Putting a
value under a key that is present keeps the key's place. The main facts are what `get?` and `keys`
become after `put`, and that the entries are those that `get?` finds.
-/

namespace Reporting

namespace Keyed

/-- The value of the first entry with a key. -/
def find? {α : Type} (key : String) : List (String × α) → Option α
  | [] => none
  | (k, v) :: rest => if k = key then some v else find? key rest

/-- Replaces the value of the first entry with a key, or adds an entry at the end. -/
def putEntry {α : Type} (key : String) (value : α) : List (String × α) → List (String × α)
  | [] => [(key, value)]
  | (k, v) :: rest =>
    if k = key then (key, value) :: rest else (k, v) :: putEntry key value rest

theorem map_fst_putEntry {α : Type} (key : String) (value : α) (entries : List (String × α)) :
    (putEntry key value entries).map Prod.fst =
      if key ∈ entries.map Prod.fst then entries.map Prod.fst
      else entries.map Prod.fst ++ [key] := by
  induction entries with
  | nil => simp [putEntry]
  | cons entry rest ih =>
    obtain ⟨k, v⟩ := entry
    by_cases h : k = key
    · simp [putEntry, h]
    · have h' : ¬ key = k := fun e => h e.symm
      simp only [putEntry, h, if_false, List.map_cons, ih, List.mem_cons, h', false_or]
      split <;> simp

theorem putEntry_of_not_mem {α : Type} {key : String} {value : α} {entries : List (String × α)}
    (h : key ∉ entries.map Prod.fst) : putEntry key value entries = entries ++ [(key, value)] := by
  induction entries with
  | nil => rfl
  | cons entry rest ih =>
    obtain ⟨hne, hrest⟩ := not_or.mp fun hmem => h (List.mem_cons.mpr hmem)
    rw [putEntry, if_neg fun e => hne e.symm, ih hrest, List.cons_append]

theorem nodup_putEntry {α : Type} {key : String} {value : α} {entries : List (String × α)}
    (h : (entries.map Prod.fst).Nodup) : ((putEntry key value entries).map Prod.fst).Nodup := by
  rw [map_fst_putEntry]
  split
  · exact h
  · next absent =>
    refine List.nodup_append.mpr ⟨h, by simp, fun a ha b hb => ?_⟩
    rintro rfl
    exact absent (by simpa [List.mem_singleton.mp hb] using ha)

end Keyed

/-- An ordered table with distinct text keys. -/
structure Keyed (α : Type) where
  entries : List (String × α)
  nodup : (entries.map Prod.fst).Nodup

namespace Keyed

variable {α β : Type}

instance [DecidableEq α] : DecidableEq (Keyed α) := fun a b =>
  if h : a.entries = b.entries then
    isTrue (by cases a; cases b; simp_all)
  else isFalse (fun e => h (by rw [e]))

@[ext] theorem ext {a b : Keyed α} (h : a.entries = b.entries) : a = b := by
  cases a; cases b; simp_all

/-- The table without entries. -/
def empty : Keyed α := ⟨[], by simp⟩

instance : Inhabited (Keyed α) := ⟨empty⟩

/-- The keys, in order. -/
def keys (t : Keyed α) : List String := t.entries.map Prod.fst

/-- The values, in the order of their keys. -/
def values (t : Keyed α) : List α := t.entries.map Prod.snd

/-- The value of a key. -/
def get? (t : Keyed α) (key : String) : Option α := find? key t.entries

/-- Whether a key is present. -/
def contains (t : Keyed α) (key : String) : Bool := (t.get? key).isSome

/-- Sets the value of a key. A new key goes to the end. -/
def put (t : Keyed α) (key : String) (value : α) : Keyed α :=
  ⟨putEntry key value t.entries, nodup_putEntry t.nodup⟩

/-- Puts entries one after the other: a repeated key keeps its first place and its last value. -/
def ofList (entries : List (String × α)) : Keyed α :=
  entries.foldl (fun t entry => t.put entry.1 entry.2) empty

/-- The table with a function applied to each value. -/
def mapValues (f : α → β) (t : Keyed α) : Keyed β :=
  ⟨t.entries.map fun entry => (entry.1, f entry.2), by
    simpa [List.map_map, Function.comp_def] using t.nodup⟩

/-! ## What putting does -/

theorem find?_putEntry (key other : String) (value : α) (entries : List (String × α)) :
    find? other (putEntry key value entries) =
      if key = other then some value else find? other entries := by
  induction entries with
  | nil => simp [putEntry, find?]
  | cons entry rest ih =>
    obtain ⟨k, v⟩ := entry
    by_cases h : k = key
    · subst h
      by_cases h' : k = other <;> simp [putEntry, find?, h']
    · by_cases h' : k = other
      · subst h'
        have : ¬ key = k := fun e => h e.symm
        simp [putEntry, find?, h, this]
      · simp [putEntry, find?, h, h', ih]

@[simp] theorem get?_put (t : Keyed α) (key other : String) (value : α) :
    (t.put key value).get? other = if key = other then some value else t.get? other :=
  find?_putEntry key other value t.entries

@[simp] theorem get?_empty (key : String) : (empty : Keyed α).get? key = none := rfl

theorem keys_put (t : Keyed α) (key : String) (value : α) :
    (t.put key value).keys = if key ∈ t.keys then t.keys else t.keys ++ [key] :=
  map_fst_putEntry key value t.entries

/-! ## What is found -/

@[simp] theorem find?_nil (key : String) : find? key ([] : List (String × α)) = none := rfl

@[simp] theorem find?_cons_self (key : String) (value : α) (rest : List (String × α)) :
    find? key ((key, value) :: rest) = some value := by
  rw [find?, if_pos rfl]

@[simp] theorem find?_cons_of_ne {key other : String} (h : other ≠ key) (value : α)
    (rest : List (String × α)) : find? key ((other, value) :: rest) = find? key rest := by
  rw [find?, if_neg h]

theorem find?_append (key : String) (front back : List (String × α)) :
    find? key (front ++ back) = (find? key front).or (find? key back) := by
  induction front with
  | nil => rfl
  | cons entry rest ih =>
    obtain ⟨k, v⟩ := entry
    rw [List.cons_append, find?, find?, ih]
    split <;> rfl

/-- Entries of another key do not count. -/
theorem find?_filter_ne {key other : String} (h : key ≠ other) (entries : List (String × α)) :
    find? key (entries.filter (·.1 ≠ other)) = find? key entries := by
  induction entries with
  | nil => rfl
  | cons entry rest ih =>
    obtain ⟨k, v⟩ := entry
    by_cases hk : k = other
    · have hne : k ≠ key := fun e => h (e.symm.trans hk)
      rw [List.filter_cons_of_neg (by simpa using hk), find?_cons_of_ne hne, ih]
    · rw [List.filter_cons_of_pos (by simpa using hk), find?, find?, ih]

theorem find?_eq_some_iff {entries : List (String × α)} (h : (entries.map Prod.fst).Nodup)
    {key : String} {value : α} : find? key entries = some value ↔ (key, value) ∈ entries := by
  induction entries with
  | nil => simp [find?]
  | cons entry rest ih =>
    obtain ⟨k, v⟩ := entry
    obtain ⟨hk, hrest⟩ := List.nodup_cons.mp h
    rw [find?, List.mem_cons]
    by_cases hkey : k = key
    · have habsent : (key, value) ∉ rest := fun hmem =>
        hk (hkey ▸ List.mem_map.mpr ⟨(key, value), hmem, rfl⟩)
      simp [hkey, habsent, eq_comm]
    · have hne : ¬ key = k := fun e => hkey e.symm
      simp [hkey, hne, ih hrest]

theorem find?_eq_none {entries : List (String × α)} {key : String}
    (h : key ∉ entries.map Prod.fst) : find? key entries = none := by
  induction entries with
  | nil => rfl
  | cons entry rest ih =>
    obtain ⟨hne, hrest⟩ := not_or.mp fun hmem => h (List.mem_cons.mpr hmem)
    rw [find?, if_neg fun e => hne e.symm, ih hrest]

theorem get?_eq_some_iff {t : Keyed α} {key : String} {value : α} :
    t.get? key = some value ↔ (key, value) ∈ t.entries :=
  find?_eq_some_iff t.nodup

theorem mem_values {t : Keyed α} {value : α} :
    value ∈ t.values ↔ ∃ key, t.get? key = some value := by
  simp [values, get?_eq_some_iff]

theorem mem_keys {t : Keyed α} {key : String} :
    key ∈ t.keys ↔ ∃ value, t.get? key = some value := by
  simp [keys, get?_eq_some_iff]

/-! ## Entries put one after the other -/

/-- What is found was put or was there before. -/
theorem mem_of_get?_foldl_put {entries : List (String × α)} {start : Keyed α} {key : String}
    {value : α}
    (h : (entries.foldl (fun t entry => t.put entry.1 entry.2) start).get? key = some value) :
    (key, value) ∈ entries ∨ start.get? key = some value := by
  induction entries generalizing start with
  | nil => exact .inr h
  | cons entry rest ih =>
    obtain ⟨k, v⟩ := entry
    rcases ih h with hrest | hstart
    · exact .inl (List.mem_cons_of_mem _ hrest)
    · rw [get?_put] at hstart
      split at hstart
      · next hk => exact .inl (by simp [← hk, ← Option.some.inj hstart])
      · exact .inr hstart

/-- Entries with distinct keys are all found. -/
theorem get?_foldl_put {entries : List (String × α)} (h : (entries.map Prod.fst).Nodup)
    (start : Keyed α) (key : String) :
    (entries.foldl (fun t entry => t.put entry.1 entry.2) start).get? key =
      (find? key entries).or (start.get? key) := by
  induction entries generalizing start with
  | nil => rfl
  | cons entry rest ih =>
    obtain ⟨k, v⟩ := entry
    obtain ⟨hk, hrest⟩ := List.nodup_cons.mp h
    rw [List.foldl_cons, ih hrest, get?_put, find?]
    by_cases hkey : k = key
    · simp [hkey, find?_eq_none (hkey ▸ hk)]
    · simp [hkey]

/-- Entries with new and distinct keys go to the end, in their order. -/
theorem entries_foldl_put {entries : List (String × α)} {start : Keyed α}
    (h : (start.keys ++ entries.map Prod.fst).Nodup) :
    (entries.foldl (fun t entry => t.put entry.1 entry.2) start).entries =
      start.entries ++ entries := by
  induction entries generalizing start with
  | nil => simp
  | cons entry rest ih =>
    obtain ⟨k, v⟩ := entry
    have hnew : k ∉ start.keys := fun hk =>
      (List.nodup_append.mp h).2.2 k hk k (by simp) rfl
    have hput : (start.put k v).entries = start.entries ++ [(k, v)] := putEntry_of_not_mem hnew
    have hkeys : (start.put k v).keys = start.keys ++ [k] := by rw [keys_put, if_neg hnew]
    rw [List.foldl_cons, ih (by simpa [hkeys] using h), hput, List.append_assoc]
    rfl

/-- The entries of a table put one after the other make it up again. -/
@[simp] theorem ofList_entries (t : Keyed α) : ofList t.entries = t :=
  ext (by rw [ofList, entries_foldl_put (by simpa [keys, empty] using t.nodup)]; rfl)

theorem mem_of_get?_ofList {entries : List (String × α)} {key : String} {value : α}
    (h : (ofList entries).get? key = some value) : (key, value) ∈ entries :=
  (mem_of_get?_foldl_put h).resolve_right (by simp)

theorem get?_ofList {entries : List (String × α)} (h : (entries.map Prod.fst).Nodup)
    (key : String) : (ofList entries).get? key = find? key entries := by
  rw [ofList, get?_foldl_put h, get?_empty, Option.or_none]

end Keyed

end Reporting
