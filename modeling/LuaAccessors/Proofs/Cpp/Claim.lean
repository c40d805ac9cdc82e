import LuaAccessors.Cpp.ClassTree
import LuaAccessors.Proofs.Text.Dictionary

/-!
# Claims on names

The members of a class claim their names one after the other. What is left out is decided name by name: a
name that is no identifier, that the class has by itself, or that an earlier member has got.

- `claim_append`, `taken_claim`: claims in two parts, and the names that are taken afterwards;
- `name_of_claimed`, `nodup_namesOf_claimed`: identifiers are given out, free ones, and none twice;
- `nodup_exposed`: of several members with one name a single one is exposed;
- `Splits`, `splits_claim`: the members of a class are declared or left out.
-/

namespace LuaAccessors

open Cpp

/-! ## §1 Names of one member -/

namespace Member

/-- The methods that a member is declared with. -/
def methodNames (m : Member) : List Text :=
  match m with
  | .function f => [pascalCase f.name]
  | m =>
    if m.isTable then [pascalCase m.name] else [pascalCase m.name, setterName m.name]

/-- A member is a function, a table with a class of its own, or a value that can be set. -/
theorem cases_declared (m : Member) :
    (∃ f, m = .function f) ∨
    (m.isTable = true ∧ m.cppNames = [pascalCase m.name, tableClassName m.name] ∧
      m.methodNames = [pascalCase m.name] ∧ Accessor.ofMember m = tableAccessor m.name m.fields) ∨
    (m.isTable = false ∧ m.cppNames = [pascalCase m.name, setterName m.name] ∧
      m.methodNames = [pascalCase m.name, setterName m.name] ∧
      ∃ type, Accessor.ofMember m = .property m.name type) := by
  cases m with
  | function f => exact .inl ⟨f, rfl⟩
  | global g =>
    right
    cases h : (Member.global g).isTable <;> simp [cppNames, methodNames, Accessor.ofMember, h]
  | field f =>
    right
    cases h : (Member.field f).isTable <;> simp [cppNames, methodNames, Accessor.ofMember, h]

/-- The names of a member are its methods and the class of a table. -/
theorem cppNames_eq (m : Member) :
    m.cppNames = m.methodNames ++ if m.isTable then [tableClassName m.name] else [] := by
  rcases m.cases_declared with
    ⟨f, rfl⟩ | ⟨htable, hnames, hmethods, -⟩ | ⟨htable, hnames, hmethods, -⟩
  · rfl
  · simp [htable, hnames, hmethods]
  · simp [htable, hnames, hmethods]

theorem tableClassName_mem {m : Member} (h : m.isTable = true) :
    tableClassName m.name ∈ m.cppNames := by
  simp [cppNames_eq, h]

/-- A member declares no name twice. -/
theorem nodup_cppNames (m : Member) : m.cppNames.Nodup := by
  -- The setter and the class have names that are longer than the accessor's.
  have hclass : pascalCase m.name ≠ tableClassName m.name := by
    intro h
    have := congrArg List.length h
    simp [tableClassName] at this
  have hsetter : pascalCase m.name ≠ setterName m.name := by
    intro h
    have := congrArg List.length h
    simp [setterName] at this
    omega
  rcases m.cases_declared with ⟨f, rfl⟩ | ⟨-, hnames, -⟩ | ⟨-, hnames, -⟩
  · exact List.nodup_singleton _
  · simpa [hnames] using hclass
  · simpa [hnames] using hsetter

end Member

namespace Cpp

theorem canClaim_iff {taken : List Text} {m : Member} :
    canClaim taken m = true ↔ ∀ name ∈ m.cppNames, isIdentifier name = true ∧ name ∉ taken := by
  simp [canClaim]

/-! ## §2 Claims one after the other

Members claim their names in their order. A member that finds one of its names taken gets none of them, and the
names that it would have had stay free for those behind it.
-/

/-- The names that members declare. -/
def namesOf (members : List Member) : List Text := members.flatMap Member.cppNames

/-- What is taken in the end: what was taken before, and the names of the members that have got theirs. -/
theorem taken_claim (taken : List Text) (members : List Member) :
    (claim taken members).taken = taken ++ namesOf (claim taken members).claimed := by
  induction members generalizing taken with
  | nil => simp [claim, namesOf]
  | cons m rest ih =>
    rw [claim]
    split
    · simp only [ih, namesOf, List.flatMap_cons, List.append_assoc]
    · exact ih taken

/-- Members in two parts: the second part finds taken what the first one leaves taken. -/
theorem claim_append (taken : List Text) (xs ys : List Member) :
    claim taken (xs ++ ys) =
      { claimed := (claim taken xs).claimed ++ (claim (claim taken xs).taken ys).claimed
        leftOut := (claim taken xs).leftOut ++ (claim (claim taken xs).taken ys).leftOut
        taken := (claim (claim taken xs).taken ys).taken } := by
  induction xs generalizing taken with
  | nil => rfl
  | cons m xs ih =>
    rw [List.cons_append, claim, claim]
    split <;> simp [ih]

/-- The names that are given out are identifiers, and none that was taken before. -/
theorem name_of_claimed {taken : List Text} {members : List Member} {m : Member}
    (hm : m ∈ (claim taken members).claimed) {name : Text} (hname : name ∈ m.cppNames) :
    isIdentifier name = true ∧ name ∉ taken := by
  -- The taken names grow along the members, so a name that is free later was free before.
  induction members generalizing taken with
  | nil => cases hm
  | cons first rest ih =>
    rw [claim] at hm
    split at hm
    · rename_i hclaim
      rcases List.mem_cons.1 hm with rfl | hm
      · exact canClaim_iff.1 hclaim name hname
      · obtain ⟨hidentifier, hfree⟩ := ih hm
        exact ⟨hidentifier, fun htaken => hfree (List.mem_append_left _ htaken)⟩
    · exact ih hm

/-- No name is given out twice. -/
theorem nodup_namesOf_claimed (taken : List Text) (members : List Member) :
    (namesOf (claim taken members).claimed).Nodup := by
  induction members generalizing taken with
  | nil => exact List.nodup_nil
  | cons m rest ih =>
    rw [claim]
    split
    · rw [namesOf, List.flatMap_cons]
      refine List.nodup_append'.2 ⟨m.nodup_cppNames, ih _, ?_⟩
      -- Whoever comes later finds the names of `m` taken.
      intro name hname hlater
      obtain ⟨e, he, hname'⟩ := List.mem_flatMap.1 hlater
      exact (name_of_claimed he hname').2 (List.mem_append_right _ hname)
    · exact ih taken

/-- Every member gets its names or is left out. -/
theorem perm_claim (taken : List Text) (members : List Member) :
    ((claim taken members).claimed ++ (claim taken members).leftOut).Perm members := by
  induction members generalizing taken with
  | nil => exact List.Perm.nil
  | cons m rest ih =>
    rw [claim]
    split
    · exact (ih _).cons m
    · exact List.perm_middle.trans ((ih _).cons m)

theorem claimed_sublist (taken : List Text) (members : List Member) :
    (claim taken members).claimed.Sublist members := by
  induction members generalizing taken with
  | nil => exact List.Sublist.slnil
  | cons m rest ih =>
    rw [claim]
    split
    · exact (ih _).cons_cons m
    · exact (ih _).cons m

theorem leftOut_sublist (taken : List Text) (members : List Member) :
    (claim taken members).leftOut.Sublist members := by
  induction members generalizing taken with
  | nil => exact List.Sublist.slnil
  | cons m rest ih =>
    rw [claim]
    split
    · exact (ih _).cons m
    · exact (ih _).cons_cons m

/-! ## §3 Exposed members -/

/-- Members that are put one after the other under their names stand under distinct names of their own. -/
theorem keyed_foldl_put (members : List Member) {d : Dictionary Member}
    (hkeys : (d.map Prod.fst).Nodup) (hnames : ∀ e ∈ d, e.1 = e.2.name) :
    (((members.map fun m => (m.name, m)).foldl (fun d e => d.put e.1 e.2) d).map Prod.fst).Nodup ∧
      ∀ e ∈ (members.map fun m => (m.name, m)).foldl (fun d e => d.put e.1 e.2) d,
        e.1 = e.2.name := by
  induction members generalizing d with
  | nil => exact ⟨hkeys, hnames⟩
  | cons m rest ih =>
    apply ih (Dictionary.nodup_keys_put hkeys _ _)
    intro e he
    rcases Dictionary.mem_put he with rfl | he
    · rfl
    · exact hnames e he

/-- **Exposed members have distinct names.** -/
theorem nodup_exposed (members : List Member) : ((exposed members).map Member.name).Nodup := by
  obtain ⟨hkeys, hnames⟩ := @keyed_foldl_put (members.filter isExposed) [] List.nodup_nil
    (fun e he => by cases he)
  have hmap : (exposed members).map Member.name =
      (Dictionary.ofList ((members.filter isExposed).map fun m => (m.name, m))).map Prod.fst := by
    rw [exposed, Dictionary.values, List.map_map]
    apply List.map_congr_left
    intro e he
    exact (hnames e he).symm
  rw [hmap]
  exact hkeys

/-! ## §4 Declared or left out -/

/-- The candidates of a class, each once, split into members that are declared and members that are left
out, both in their order. A candidate is left out exactly if one of its names is no identifier, is reserved,
or is a name of a declared member in front of it. -/
structure Splits (reserved : List Text) (candidates declared leftOut : List Member) : Prop where
  nodup : candidates.Nodup
  declared_sublist : declared.Sublist candidates
  leftOut_sublist : leftOut.Sublist candidates
  perm : (declared ++ leftOut).Perm candidates
  mem_leftOut_iff : ∀ before m after, candidates = before ++ m :: after →
    (m ∈ leftOut ↔ ∃ name ∈ m.cppNames, isIdentifier name = false ∨ name ∈ reserved ∨
      ∃ e ∈ before, e ∈ declared ∧ name ∈ e.cppNames)

/-- A member that comes behind others has got its names exactly if it can claim them. -/
theorem mem_leftOut_claim {taken : List Text} {before after : List Member} {m : Member}
    (h : (before ++ m :: after).Nodup) :
    m ∈ (claim taken (before ++ m :: after)).leftOut ↔
      canClaim (claim taken before).taken m = false := by
  obtain ⟨-, hrest, hdisjoint⟩ := List.nodup_append'.1 h
  have hafter := (List.nodup_cons.1 hrest).1
  have hbefore : m ∉ (claim taken before).leftOut := fun hm =>
    hdisjoint ((leftOut_sublist _ _).subset hm) List.mem_cons_self
  -- The members in front decide which names are taken; the member itself is among the others only once.
  rw [claim_append]
  simp only [List.mem_append, hbefore, false_or]
  rw [claim]
  split
  · rename_i hclaim
    have hnot : m ∉ (claim ((claim taken before).taken ++ m.cppNames) after).leftOut := fun hm =>
      hafter ((leftOut_sublist _ _).subset hm)
    simp [hclaim, hnot]
  · rename_i hclaim
    simpa using hclaim

/-- The members in front that have got their names. -/
theorem mem_claimed_before_iff {taken : List Text} {before rest : List Member}
    (h : (before ++ rest).Nodup) {e : Member} :
    e ∈ (claim taken before).claimed ↔ e ∈ before ∧ e ∈ (claim taken (before ++ rest)).claimed := by
  obtain ⟨-, -, hdisjoint⟩ := List.nodup_append'.1 h
  rw [claim_append]
  constructor
  · intro he
    exact ⟨mem_of_mem_claimed he, List.mem_append_left _ he⟩
  · -- No member stands in both parts, so one in front has not got its names behind.
    rintro ⟨hbefore, he⟩
    rcases List.mem_append.1 he with he | he
    · exact he
    · exact absurd (mem_of_mem_claimed he) (hdisjoint hbefore)

/-- **Claiming leaves out what has to be left out, and nothing else.** -/
theorem splits_claim {reserved : List Text} {candidates : List Member} (h : candidates.Nodup) :
    Splits reserved candidates (claim reserved candidates).claimed
      (claim reserved candidates).leftOut := by
  constructor
  case nodup => exact h
  case declared_sublist => exact claimed_sublist _ _
  case leftOut_sublist => exact leftOut_sublist _ _
  case perm => exact perm_claim _ _
  case mem_leftOut_iff =>
    rintro before m after rfl
    rw [mem_leftOut_claim h, taken_claim, ← Bool.not_eq_true, canClaim_iff]
    push Not
    apply exists_congr
    intro name
    apply and_congr_right
    intro _
    -- Taken are the reserved names and those of the members in front that have got theirs.
    have htaken : name ∈ reserved ++ namesOf (claim reserved before).claimed ↔
        name ∈ reserved ∨ ∃ e ∈ before, e ∈ (claim reserved (before ++ m :: after)).claimed ∧
          name ∈ e.cppNames := by
      simp only [List.mem_append, namesOf, List.mem_flatMap, mem_claimed_before_iff h, and_assoc]
    rw [← htaken]
    cases isIdentifier name <;> simp

end Cpp

end LuaAccessors
