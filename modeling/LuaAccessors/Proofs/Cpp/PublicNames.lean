import LuaAccessors.Proofs.Cpp.Reading
import Mathlib.Data.List.Perm.Basic

/-!
# Public names of a class

The names that a class declares publicly are the names that its members have claimed and those it has by
itself. Claiming keeps the former apart and off the latter; what is left is whether the class has the same
name twice by itself.

- `HeaderClass.perm_publicNames`: which names a class declares publicly;
- `publicNames_wellFormed`: they are identifiers, and distinct in all classes but one kind;
- `not_all_names_distinct`: the exception, a table whose class is called as the accessor of the raw table.
-/

namespace LuaAccessors.Cpp

namespace HeaderClass

/-! ## §1 Names that are claimed -/

/-- The inner classes and the methods for the members have the names that the members have claimed. -/
theorem perm_namesOf (c : HeaderClass) :
    (c.tables.map ownName ++ c.declared.flatMap Member.methodNames).Perm (namesOf c.declared) := by
  have htables : c.tables.map ownName =
      c.declared.flatMap fun m => if m.isTable then [tableClassName m.name] else [] := by
    unfold tables
    induction c.declared with
    | nil => rfl
    | cons m rest ih => cases hm : m.isTable <;> simp [hm, ih, ownName]
  have hnames : namesOf c.declared = c.declared.flatMap fun m =>
      m.methodNames ++ if m.isTable then [tableClassName m.name] else [] := by
    rw [namesOf]
    exact List.flatMap_congr fun m _ => m.cppNames_eq
  -- The methods and the class of one table stand side by side among the claimed names only.
  rw [htables, hnames]
  exact List.perm_append_comm.trans (List.flatMap_append_perm _ _ _)

/-- The names that a class declares publicly are its reserved ones and those that its members have
claimed. -/
theorem perm_publicNames (c : HeaderClass) :
    (publicNames c.lines).Perm (c.reserved ++ namesOf c.declared) := by
  rw [publicNames_lines, reserved, List.cons_append, ← List.append_assoc]
  apply List.Perm.cons
  exact (c.perm_namesOf.append_right _).trans List.perm_append_comm

/-- A name that a member has claimed is no reserved one. -/
theorem disjoint_reserved (c : HeaderClass) : c.reserved.Disjoint (namesOf c.declared) := by
  intro name hreserved hname
  obtain ⟨m, hm, hname⟩ := List.mem_flatMap.1 hname
  exact (name_of_claimed hm hname).2 hreserved

/-! ## §2 Names that a class has by itself -/

/-- A class declares a name twice only if it has it twice by itself. -/
theorem nodup_publicNames_iff (c : HeaderClass) :
    (publicNames c.lines).Nodup ↔ c.ownName ∉ c.builtIn := by
  constructor
  · intro h hmem
    rw [publicNames_lines] at h
    apply (List.nodup_cons.1 h).1
    exact List.mem_append_right _ (List.mem_append_right _ hmem)
  · -- Claimed names are distinct and differ from all that the class has by itself.
    intro hfree
    have hbuiltIn : c.builtIn.Nodup := by cases c <;> simp [builtIn]
    rw [c.perm_publicNames.nodup_iff]
    apply List.nodup_append'.2
    exact ⟨List.nodup_cons.2 ⟨hfree, hbuiltIn⟩, nodup_namesOf_claimed _ _, c.disjoint_reserved⟩

/-- Methods always have distinct names. -/
theorem nodup_methodNames (c : HeaderClass) : (methodNames c.lines).Nodup := by
  have hbuiltIn : c.builtIn.Nodup := by cases c <;> simp [builtIn]
  have hmembers := (c.perm_namesOf.nodup_iff.2 (nodup_namesOf_claimed _ _)).of_append_right
  rw [methodNames_lines]
  refine List.nodup_append'.2 ⟨hmembers, hbuiltIn, ?_⟩
  intro name hname hfixed
  apply c.disjoint_reserved (List.mem_cons_of_mem _ hfixed)
  exact c.perm_namesOf.subset (List.mem_append_right _ hname)

/-- A class has a name twice by itself only if it is for a variable: inside the class for a table no member
can get the name that the raw table has. -/
theorem ownName_mem_builtIn_iff {r : ParseResult} {c : HeaderClass} (hc : c ∈ classes r) :
    c.ownName ∈ c.builtIn ↔
      ∃ luaName, c.path = [luaName] ∧ tableClassName luaName = rawTableName := by
  constructor
  · intro hown
    rcases eq_or_mem_tables hc with rfl | ⟨d, hd⟩
    · cases hown
    · obtain ⟨m, hm, htable, rfl⟩ := mem_tables.1 hd
      have hraw : tableClassName m.name = rawTableName := List.mem_singleton.1 hown
      refine ⟨m.name, ?_, hraw⟩
      cases d with
      | script r' => rfl
      | wrapper scope luaName fields =>
        -- The class around it is for a table and keeps the name for itself.
        have hfree := (name_of_claimed hm (Member.tableClassName_mem htable)).2
        rw [hraw] at hfree
        exact absurd (by simp [reserved, builtIn]) hfree
  · rintro ⟨luaName, hpath, hraw⟩
    cases c with
    | script r' => cases hpath
    | wrapper scope luaName' fields =>
      obtain rfl : luaName' = luaName := by
        have := congrArg List.getLast? hpath
        simpa [path] using this
      exact List.mem_singleton.2 hraw

/-- The classes for tables are named by identifiers. -/
theorem isIdentifier_ownName {r : ParseResult} {c : HeaderClass} (hc : c ∈ classes r)
    (hscript : c ≠ .script r) : isIdentifier c.ownName = true := by
  rcases eq_or_mem_tables hc with rfl | ⟨d, hd⟩
  · exact absurd rfl hscript
  · obtain ⟨m, hm, htable, rfl⟩ := mem_tables.1 hd
    exact (name_of_claimed hm (Member.tableClassName_mem htable)).1

end HeaderClass

/-! ## §3 All names of a class -/

/-- **The public names of a class**, whatever the members are called. They are its own name, the classes of
its tables, the methods of its members and the built-in ones. All are identifiers, the name of the class for
the script aside. They are distinct unless the class is for a variable and is itself called as its built-in
accessor. -/
theorem publicNames_wellFormed {r : ParseResult} {c : HeaderClass} (hc : c ∈ classes r) :
    publicNames c.lines = c.ownName ::
      (c.tables.map HeaderClass.ownName ++ (c.declared.flatMap Member.methodNames ++ c.builtIn)) ∧
    (∀ name ∈ publicNames c.lines,
      isIdentifier name = true ∨ (c = .script r ∧ name = c.ownName)) ∧
    ((publicNames c.lines).Nodup ↔
      ¬∃ luaName, c.path = [luaName] ∧ tableClassName luaName = rawTableName) := by
  refine ⟨c.publicNames_lines, ?_, ?_⟩
  · intro name hname
    rw [c.perm_publicNames.mem_iff, HeaderClass.reserved, List.cons_append, List.mem_cons,
      List.mem_append] at hname
    -- Names of three kinds: that of the class, those that it has by itself, and claimed ones.
    rcases hname with rfl | hname | hname
    · by_cases hscript : c = .script r
      · exact .inr ⟨hscript, rfl⟩
      · exact .inl (HeaderClass.isIdentifier_ownName hc hscript)
    · left
      cases c with
      | script r' => cases hname
      | wrapper scope luaName fields =>
        rw [List.mem_singleton.1 hname]
        decide
    · obtain ⟨m, hm, hname⟩ := List.mem_flatMap.1 hname
      exact .inl (name_of_claimed hm hname).1
  · rw [c.nodup_publicNames_iff, HeaderClass.ownName_mem_builtIn_iff hc]

/-- A table with a field. -/
def player : Global :=
  { name := "player", valueType := .table, fields := [{ name := "hp", valueType := .number }] }

/-- A script with a table `player`, and with a function that takes the names of a table `config`. -/
def clashingScript : ParseResult :=
  { fileName := "game"
    functions := [{ name := "config_table" }]
    globals := [{ name := "config", valueType := .table }, player] }

theorem classes_clashingScript : classes clashingScript =
    [.script clashingScript, .wrapper [] player.name player.fields] := by
  have houter : (HeaderClass.script clashingScript).tables =
      [.wrapper [] player.name player.fields] := rfl
  have hinner : (HeaderClass.wrapper [] player.name player.fields).tables = [] := rfl
  rw [classes, HeaderClass.withInner_eq, houter, List.flatMap_singleton, HeaderClass.withInner_eq,
    hinner, List.flatMap_nil]

/-- The class for `player` is one of the classes, and each of its names is declared once. -/
theorem publicNames_player :
    .wrapper [] player.name player.fields ∈ classes clashingScript ∧
      publicNames (HeaderClass.wrapper [] player.name player.fields).lines =
        ["PlayerTable".toList, "Hp".toList, "SetHp".toList, "RawTable".toList] ∧
      (publicNames (HeaderClass.wrapper [] player.name player.fields).lines).Nodup := by
  have hmem : .wrapper [] player.name player.fields ∈ classes clashingScript := by
    simp [classes_clashingScript]
  obtain ⟨hnames, -, hdistinct⟩ := publicNames_wellFormed hmem
  refine ⟨hmem, hnames.trans rfl, hdistinct.2 ?_⟩
  rintro ⟨luaName, hpath, hraw⟩
  cases hpath
  exact absurd hraw (by decide)

/-- A table whose class is called as the accessor that the class has for the raw table. -/
def rawScript : ParseResult :=
  { fileName := "game", globals := [{ name := "raw", valueType := .table }] }

/-- **Names are not always distinct**: the class for a variable `raw` declares a method of its own name. -/
theorem not_all_names_distinct :
    ¬∀ (r : ParseResult) (c : HeaderClass), c ∈ classes r → (publicNames c.lines).Nodup := by
  intro h
  have hdeclared : (HeaderClass.script rawScript).declared =
      [.global { name := "raw", valueType := .table }] := rfl
  have hmem : .wrapper [] "raw".toList [] ∈ classes rawScript := by
    apply HeaderClass.mem_withInner_of_mem_tables (HeaderClass.self_mem_withInner _)
    apply HeaderClass.mem_tables.2
    rw [hdeclared]
    exact ⟨_, List.mem_singleton_self _, rfl, rfl⟩
  have hfree := (HeaderClass.nodup_publicNames_iff _).1 (h rawScript _ hmem)
  exact hfree (by decide)

end LuaAccessors.Cpp
