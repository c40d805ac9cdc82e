import LuaAccessors.Text.Basic

/-!
# Dictionaries

A dictionary keeps its entries in the order in which their keys first came. Putting a value under a
key that is there replaces the value and leaves the entry where it is.
-/

namespace LuaAccessors

/-- Values under distinct keys, in the order of the keys' first arrival. -/
abbrev Dictionary (α : Type) := List (Text × α)

namespace Dictionary

variable {α : Type}

/-- The value under a key. -/
def get? (d : Dictionary α) (key : Text) : Option α := d.lookup key

/-- The dictionary with `value` under `key`. -/
def put : Dictionary α → Text → α → Dictionary α
  | [], key, value => [(key, value)]
  | (k, v) :: rest, key, value =>
    if k = key then (k, value) :: rest else (k, v) :: put rest key value

/-- The values in the order of their keys. -/
def values (d : Dictionary α) : List α := d.map (·.2)

/-- The dictionary that results from putting entries one after the other. -/
def ofList (entries : List (Text × α)) : Dictionary α :=
  entries.foldl (fun d e => d.put e.1 e.2) []

/-- A look-up after a put finds the new value under its key and the old ones elsewhere. -/
theorem get?_put (d : Dictionary α) (key other : Text) (value : α) :
    (d.put key value).get? other = if other = key then some value else d.get? other := by
  induction d with
  | nil =>
    by_cases h : other = key
    · simp [put, get?, h]
    · simp [put, get?, List.lookup_cons, h, beq_eq_false_iff_ne.2 h]
  | cons e rest ih =>
    obtain ⟨k, v⟩ := e
    simp only [get?] at ih
    -- The entry is replaced where its key is found, and put at the end if it is nowhere.
    by_cases hk : k = key
    · subst hk
      by_cases h : other = k
      · simp [put, get?, h]
      · simp [put, get?, List.lookup_cons, h, beq_eq_false_iff_ne.2 h]
    · by_cases h : other = k
      · subst h
        simp [put, get?, hk]
      · simp [put, get?, List.lookup_cons, hk, beq_eq_false_iff_ne.2 h, ih]

end Dictionary

end LuaAccessors
