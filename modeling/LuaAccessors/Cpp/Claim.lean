import LuaAccessors.Cpp.Name
import LuaAccessors.Schema.Member
import LuaAccessors.Text.Dictionary

/-!
# Claims on C++ names

Which members of a schema a class declares. Members that are local or whose name is no identifier are
not exposed; of several with one name the last counts, at the place of the first. The exposed members
then claim their C++ names in order: one whose names are no identifiers, or are taken, is left out.

- `Member.cppNames`: the names that a member declares in its class;
- `exposed`: the members that can be declared at all;
- `claim`: who gets its names, who is left out, and which names are taken afterwards.
-/

namespace LuaAccessors

open Cpp

/-- The names that a member declares in its class: a method, an accessor and a setter, or an accessor
and a class. -/
def Member.cppNames (m : Member) : List Text :=
  match m with
  | .function f => [pascalCase f.name]
  | m =>
    if m.isTable then [pascalCase m.name, tableClassName m.name]
    else [pascalCase m.name, setterName m.name]

namespace Cpp

/-- A member that can be declared. -/
def isExposed (m : Member) : Bool := !m.isLocal && isIdentifier m.name

/-- The members that can be declared; a later one takes the place of an earlier one of its name. -/
def exposed (members : List Member) : List Member :=
  (Dictionary.ofList ((members.filter isExposed).map fun m => (m.name, m))).values

/-- How the names of a class have been given out. -/
structure Claims where
  /-- The members that have got their names. -/
  claimed : List Member := []
  /-- The members that are left out. -/
  leftOut : List Member := []
  /-- The names that are taken. -/
  taken : List Text := []

/-- Whether a member's names are identifiers and free. -/
def canClaim (taken : List Text) (m : Member) : Bool :=
  m.cppNames.all fun name => isIdentifier name && !taken.contains name

/-- The members claim their names one after the other. -/
def claim (taken : List Text) : List Member → Claims
  | [] => { taken }
  | m :: rest =>
    if canClaim taken m then
      let c := claim (taken ++ m.cppNames) rest
      { c with claimed := m :: c.claimed }
    else
      let c := claim taken rest
      { c with leftOut := m :: c.leftOut }

/-! ## Members come from what was given -/

/-- A put keeps all other values. -/
theorem mem_values_put {α : Type} {d : Dictionary α} {key : Text} {value v : α}
    (h : v ∈ (d.put key value).values) : v = value ∨ v ∈ d.values := by
  induction d with
  | nil => simpa [Dictionary.put, Dictionary.values] using h
  | cons e rest ih =>
    obtain ⟨k, u⟩ := e
    simp only [Dictionary.values] at ih
    -- The key is the one that is put here, or it is put further down.
    by_cases hk : k = key
    · simp only [Dictionary.put, Dictionary.values, hk, if_true, List.map_cons,
        List.mem_cons] at h ⊢
      exact h.imp_right .inr
    · simp only [Dictionary.put, Dictionary.values, hk, if_false, List.map_cons,
        List.mem_cons] at h ⊢
      rcases h with h | h
      · exact .inr (.inl h)
      · exact (ih h).imp_right .inr

/-- The values of a dictionary come from the entries it was made of. -/
theorem mem_values_foldl_put {α : Type} {entries : List (Text × α)} {d : Dictionary α} {v : α}
    (h : v ∈ (entries.foldl (fun d e => d.put e.1 e.2) d).values) :
    v ∈ d.values ∨ v ∈ entries.map (·.2) := by
  induction entries generalizing d with
  | nil => exact .inl h
  | cons e rest ih =>
    rcases ih h with h | h
    · rcases mem_values_put h with rfl | h
      · simp
      · exact .inl h
    · exact .inr (List.mem_cons_of_mem _ h)

/-- An exposed member is one of those given that can be declared. -/
theorem isExposed_of_mem_exposed {members : List Member} {m : Member} (h : m ∈ exposed members) :
    m ∈ members ∧ isExposed m = true := by
  rcases mem_values_foldl_put h with h | h
  · simp [Dictionary.values] at h
  · simp only [List.map_map, List.mem_map, List.mem_filter] at h
    obtain ⟨m', hm, rfl⟩ := h
    exact hm

theorem mem_of_mem_exposed {members : List Member} {m : Member} (h : m ∈ exposed members) :
    m ∈ members := (isExposed_of_mem_exposed h).1

/-- A member that has got its names is one of those that claimed. -/
theorem mem_of_mem_claimed {taken : List Text} {members : List Member} {m : Member}
    (h : m ∈ (claim taken members).claimed) : m ∈ members := by
  induction members generalizing taken with
  | nil => simp [claim] at h
  | cons first rest ih =>
    rw [claim] at h
    split at h
    · rcases List.mem_cons.1 h with rfl | h
      · exact List.mem_cons_self
      · exact List.mem_cons_of_mem _ (ih h)
    · exact List.mem_cons_of_mem _ (ih h)

end Cpp

end LuaAccessors
