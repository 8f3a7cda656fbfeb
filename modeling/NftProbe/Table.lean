/-!
# Tables in insertion order

A `Table` maps keys to values and keeps its keys in the order they were first inserted.
Inserting a key that is present replaces its value in place.
-/

set_option autoImplicit false

namespace NftProbe

/-- A finite map that keeps its keys in insertion order. -/
abbrev Table (κ ν : Type) := List (κ × ν)

namespace Table

variable {κ ν : Type} [BEq κ]

/-- The value of a key. -/
def get? (table : Table κ ν) (key : κ) : Option ν :=
  (table.find? (·.1 == key)).map (·.2)

/-- Whether a key is present. -/
def contains (table : Table κ ν) (key : κ) : Bool :=
  table.any (·.1 == key)

/-- The table with `key` set to `value`: in place when present, at the end otherwise. -/
def insert (table : Table κ ν) (key : κ) (value : ν) : Table κ ν :=
  if table.contains key then table.map fun entry => if entry.1 == key then (key, value) else entry
  else table ++ [(key, value)]

/-- The table without `key`. -/
def erase (table : Table κ ν) (key : κ) : Table κ ν :=
  table.filter (!·.1 == key)

/-- The table with the value of `key` changed by `f`, starting from `default` when absent. -/
def update (table : Table κ ν) (key : κ) (default : ν) (f : ν → ν) : Table κ ν :=
  table.insert key (f ((table.get? key).getD default))

/-- The values in key order. -/
def values (table : Table κ ν) : List ν :=
  table.map (·.2)

/-! ### Reading a table after a change -/

section Lawful

variable [LawfulBEq κ]

theorem contains_eq_isSome_get? (table : Table κ ν) (key : κ) :
    table.contains key = (table.get? key).isSome := by
  induction table with
  | nil => rfl
  | cons entry rest ih =>
    simp only [contains, get?, List.any_cons, List.find?_cons] at ih ⊢
    split <;> simp_all

@[simp] theorem get?_insert [DecidableEq κ] (table : Table κ ν) (key key' : κ) (value : ν) :
    (table.insert key value).get? key' = if key = key' then some value else table.get? key' := by
  unfold insert
  split
  · rename_i hcontains
    have hkeys : ((fun entry : κ × ν => entry.1 == key') ∘
        fun entry => if (entry.1 == key) = true then (key, value) else entry) =
        fun entry => entry.1 == key' := by
      funext entry
      by_cases h : entry.1 = key <;> simp [h]
    simp only [get?, List.find?_map, hkeys]
    rcases hfind : List.find? (fun entry => entry.1 == key') table with _ | ⟨k, v⟩
    · have hne : key ≠ key' := by
        rintro rfl
        rw [contains_eq_isSome_get?, get?, hfind] at hcontains
        simp at hcontains
      simp [hfind, hne]
    · have hk : k = key' := by simpa using List.find?_some hfind
      subst hk
      by_cases h : k = key
      · subst h
        simp [hfind]
      · simp [hfind, h, Ne.symm h]
  · rename_i hcontains
    simp only [get?, List.find?_append]
    by_cases h : key = key'
    · subst h
      have hnone : table.get? key = none := by
        rw [contains_eq_isSome_get?] at hcontains
        simpa using hcontains
      simp only [get?, Option.map_eq_none_iff] at hnone
      simp [hnone]
    · simp [h]

@[simp] theorem contains_insert [DecidableEq κ] (table : Table κ ν) (key key' : κ) (value : ν) :
    (table.insert key value).contains key' = (key == key' || table.contains key') := by
  rw [contains_eq_isSome_get?, contains_eq_isSome_get?, get?_insert]
  by_cases h : key = key' <;> simp [h]

@[simp] theorem get?_erase [DecidableEq κ] (table : Table κ ν) (key key' : κ) :
    (table.erase key).get? key' = if key = key' then none else table.get? key' := by
  induction table with
  | nil => simp [erase, get?]
  | cons entry rest ih =>
    obtain ⟨k, v⟩ := entry
    simp only [erase, get?, List.filter_cons] at ih ⊢
    by_cases hk : k = key <;> by_cases hk' : k = key' <;> by_cases h : key = key' <;> simp_all

@[simp] theorem contains_erase [DecidableEq κ] (table : Table κ ν) (key key' : κ) :
    (table.erase key).contains key' = (!(key == key') && table.contains key') := by
  rw [contains_eq_isSome_get?, contains_eq_isSome_get?, get?_erase]
  by_cases h : key = key' <;> simp [h]

@[simp] theorem get?_update [DecidableEq κ] (table : Table κ ν) (key key' : κ) (default : ν)
    (f : ν → ν) :
    (table.update key default f).get? key' =
      if key = key' then some (f ((table.get? key).getD default)) else table.get? key' := by
  simp [update]

@[simp] theorem contains_update [DecidableEq κ] (table : Table κ ν) (key key' : κ) (default : ν)
    (f : ν → ν) :
    (table.update key default f).contains key' = (key == key' || table.contains key') := by
  simp [update]

end Lawful

end Table

end NftProbe
