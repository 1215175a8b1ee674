/-!
# Dictionaries in order of insertion

A `Dict` is a list of keys and values in which every key stands once. Assigning to a
key that is present replaces its value in place, so the order of the keys is the order
in which they first came. `get?` is the view that the other operations are described by.
-/

universe u v

namespace Waymark

/-- A finite map that remembers the order in which its keys came. -/
structure Dict (κ : Type u) (ν : Type v) where
  entries : List (κ × ν)
  nodupKeys : (entries.map Prod.fst).Nodup

namespace Dict

variable {κ : Type u} {ν : Type v}

def empty : Dict κ ν := ⟨[], List.nodup_nil⟩

instance : Inhabited (Dict κ ν) := ⟨empty⟩

instance : EmptyCollection (Dict κ ν) := ⟨empty⟩

@[ext] theorem ext {left right : Dict κ ν} (entries : left.entries = right.entries) :
    left = right := by
  cases left; cases right; cases entries; rfl

def keys (dict : Dict κ ν) : List κ := dict.entries.map Prod.fst

def values (dict : Dict κ ν) : List ν := dict.entries.map Prod.snd

def size (dict : Dict κ ν) : Nat := dict.entries.length

section Lookup

variable [DecidableEq κ]

def find? (key : κ) : List (κ × ν) → Option ν
  | [] => none
  | (key', value) :: rest => if key' = key then some value else find? key rest

def get? (dict : Dict κ ν) (key : κ) : Option ν := find? key dict.entries

def contains (dict : Dict κ ν) (key : κ) : Bool := (dict.get? key).isSome

/-- Replaces the value of a key in place, or adds the key at the end. -/
def assign (key : κ) (value : ν) : List (κ × ν) → List (κ × ν)
  | [] => [(key, value)]
  | (key', value') :: rest =>
    if key' = key then (key, value) :: rest else (key', value') :: assign key value rest

theorem map_fst_assign (key : κ) (value : ν) (entries : List (κ × ν)) :
    (assign key value entries).map Prod.fst =
      if key ∈ entries.map Prod.fst then entries.map Prod.fst
      else entries.map Prod.fst ++ [key] := by
  induction entries with
  | nil => simp [assign]
  | cons entry rest inductionHypothesis =>
    obtain ⟨key', value'⟩ := entry
    by_cases same : key' = key
    · simp [assign, same]
    · have different : key ≠ key' := fun equality => same equality.symm
      simp only [assign, same, if_false, List.map_cons, inductionHypothesis, List.mem_cons,
        different, false_or]
      split <;> simp

theorem nodup_map_fst_assign (key : κ) (value : ν) {entries : List (κ × ν)}
    (nodup : (entries.map Prod.fst).Nodup) :
    ((assign key value entries).map Prod.fst).Nodup := by
  rw [map_fst_assign]
  split
  · exact nodup
  · next absent =>
    rw [List.nodup_append]
    refine ⟨nodup, by simp, ?_⟩
    intro left leftMember right rightMember equality
    rw [List.mem_singleton] at rightMember
    exact absent (rightMember ▸ equality ▸ leftMember)

def insert (dict : Dict κ ν) (key : κ) (value : ν) : Dict κ ν :=
  ⟨assign key value dict.entries, nodup_map_fst_assign key value dict.nodupKeys⟩

/-- A dictionary from pairs, later values winning. -/
def ofList (pairs : List (κ × ν)) : Dict κ ν :=
  pairs.foldl (fun dict (key, value) => dict.insert key value) empty

end Lookup

def filterKeys (dict : Dict κ ν) (keep : κ → Bool) : Dict κ ν :=
  ⟨dict.entries.filter fun entry => keep entry.1,
    (List.filter_sublist.map Prod.fst).nodup dict.nodupKeys⟩

def mapValues {ω : Type} (dict : Dict κ ν) (f : ν → ω) : Dict κ ω :=
  ⟨dict.entries.map fun entry => (entry.1, f entry.2), by
    simpa [Function.comp_def] using dict.nodupKeys⟩

theorem mapValues_eq_self {ω : Type} {dict : Dict κ ω} {f : ω → ω}
    (fixed : ∀ value ∈ dict.values, f value = value) : dict.mapValues f = dict := by
  have fixedEntries : ∀ entry ∈ dict.entries, (entry.1, f entry.2) = entry := by
    intro entry mem
    rw [fixed entry.2 (List.mem_map_of_mem mem)]
  apply ext
  exact (List.map_congr_left fixedEntries).trans (List.map_id' dict.entries)

/-! ## The view of each operation -/

section Lemmas

variable [DecidableEq κ]

@[simp] theorem get?_empty (key : κ) : (empty : Dict κ ν).get? key = none := rfl

theorem find?_assign (key wanted : κ) (value : ν) (entries : List (κ × ν)) :
    find? wanted (assign key value entries) =
      if key = wanted then some value else find? wanted entries := by
  induction entries with
  | nil => simp [assign, find?]
  | cons entry rest inductionHypothesis =>
    obtain ⟨key', value'⟩ := entry
    by_cases same : key' = key
    · subst same
      by_cases hit : key' = wanted <;> simp [assign, find?, hit]
    · by_cases hit : key' = wanted
      · subst hit
        have different : key ≠ key' := fun equality => same equality.symm
        simp [assign, find?, same, different]
      · simp [assign, find?, same, hit, inductionHypothesis]

@[simp] theorem get?_insert (dict : Dict κ ν) (key wanted : κ) (value : ν) :
    (dict.insert key value).get? wanted =
      if key = wanted then some value else dict.get? wanted :=
  find?_assign key wanted value dict.entries

theorem find?_filter (wanted : κ) (keep : κ → Bool) (entries : List (κ × ν)) :
    find? wanted (entries.filter fun entry => keep entry.1) =
      if keep wanted then find? wanted entries else none := by
  induction entries with
  | nil => simp [find?]
  | cons entry rest inductionHypothesis =>
    obtain ⟨key, value⟩ := entry
    by_cases kept : keep key
    · by_cases hit : key = wanted
      · subst hit; simp [find?, kept]
      · simp [find?, kept, hit, inductionHypothesis]
    · by_cases hit : key = wanted
      · subst hit; simp [kept, inductionHypothesis]
      · simp [find?, kept, hit, inductionHypothesis]

@[simp] theorem get?_filterKeys (dict : Dict κ ν) (keep : κ → Bool) (wanted : κ) :
    (dict.filterKeys keep).get? wanted = if keep wanted then dict.get? wanted else none :=
  find?_filter wanted keep dict.entries

theorem find?_map {ω : Type} (f : ν → ω) (key : κ) (entries : List (κ × ν)) :
    find? key (entries.map fun entry => (entry.1, f entry.2)) = (find? key entries).map f := by
  induction entries with
  | nil => rfl
  | cons entry rest inductionHypothesis =>
    obtain ⟨key', value⟩ := entry
    by_cases hit : key' = key <;> simp [find?, hit, inductionHypothesis]

@[simp] theorem get?_mapValues {ω : Type} (dict : Dict κ ν) (f : ν → ω) (key : κ) :
    (dict.mapValues f).get? key = (dict.get? key).map f :=
  find?_map f key dict.entries

theorem find?_eq_none_iff (key : κ) (entries : List (κ × ν)) :
    find? key entries = none ↔ key ∉ entries.map Prod.fst := by
  induction entries with
  | nil => simp [find?]
  | cons entry rest inductionHypothesis =>
    obtain ⟨key', value⟩ := entry
    by_cases hit : key' = key
    · simp [find?, hit]
    · have different : key ≠ key' := fun equality => hit equality.symm
      simp [find?, hit, different, inductionHypothesis]

theorem get?_eq_none_iff (dict : Dict κ ν) (key : κ) :
    dict.get? key = none ↔ key ∉ dict.keys :=
  find?_eq_none_iff key dict.entries

theorem find?_eq_some_iff {key : κ} {value : ν} {entries : List (κ × ν)}
    (nodup : (entries.map Prod.fst).Nodup) :
    find? key entries = some value ↔ (key, value) ∈ entries := by
  induction entries with
  | nil => simp [find?]
  | cons entry rest inductionHypothesis =>
    obtain ⟨key', value'⟩ := entry
    rw [List.map_cons, List.nodup_cons] at nodup
    obtain ⟨absent, nodupRest⟩ := nodup
    by_cases hit : key' = key
    · subst hit
      have notLater : (key', value) ∉ rest :=
        fun listed => absent (List.mem_map.2 ⟨(key', value), listed, rfl⟩)
      simp [find?, notLater, eq_comm]
    · simp [find?, hit, Ne.symm hit, inductionHypothesis nodupRest]

theorem get?_eq_some_iff (dict : Dict κ ν) {key : κ} {value : ν} :
    dict.get? key = some value ↔ (key, value) ∈ dict.entries :=
  find?_eq_some_iff dict.nodupKeys

theorem keys_insert (dict : Dict κ ν) (key : κ) (value : ν) :
    (dict.insert key value).keys =
      if key ∈ dict.keys then dict.keys else dict.keys ++ [key] :=
  map_fst_assign key value dict.entries

theorem size_insert_of_not_mem {dict : Dict κ ν} {key : κ} (fresh : key ∉ dict.keys)
    (value : ν) : (dict.insert key value).size = dict.size + 1 := by
  have keys := dict.keys_insert key value
  rw [if_neg fresh] at keys
  have lengths := congrArg List.length keys
  simpa [Dict.keys, size] using lengths

theorem assign_of_not_mem {key : κ} {entries : List (κ × ν)}
    (fresh : key ∉ entries.map Prod.fst) (value : ν) :
    assign key value entries = entries ++ [(key, value)] := by
  induction entries with
  | nil => rfl
  | cons entry rest inductionHypothesis =>
    rw [List.map_cons, List.mem_cons, not_or] at fresh
    obtain ⟨different, absent⟩ := fresh
    rw [assign, if_neg (Ne.symm different), inductionHypothesis absent, List.cons_append]

theorem entries_insert_of_not_mem {dict : Dict κ ν} {key : κ} (fresh : key ∉ dict.keys)
    (value : ν) : (dict.insert key value).entries = dict.entries ++ [(key, value)] :=
  assign_of_not_mem fresh value

theorem contains_iff (dict : Dict κ ν) (key : κ) :
    dict.contains key = true ↔ key ∈ dict.keys := by
  rw [contains, Option.isSome_iff_ne_none, ne_eq, get?_eq_none_iff, Decidable.not_not]

end Lemmas

end Dict

end Waymark
