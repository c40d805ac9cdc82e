import LuaAccessors.Cpp.Header
import LuaAccessors.Proofs.Cpp.Claim
import Mathlib.Logic.Function.Iterate

/-!
# The classes of a header, one by one

A header holds the class for its script and, inside it at any depth, the classes for tables. Here they are
laid out as a list, each with the members that it is for, the names it has by itself and the lines that
declare it, so that what holds of every class can be said at once.

- `HeaderClass`: one class, with `candidates`, `declared` and `leftOut`;
- `HeaderClass.tables`, `HeaderClass.withInner`, `classes`: the classes directly inside, and all of them
  with the class itself in front;
- `HeaderClass.induction`, `HeaderClass.forall_withInner`: from the classes directly inside to all, and
  from a class to those inside it;
- `lines_eq`, `class_within_header`: what a class is written as, and that it stands in the header;
- `skipped_eq`: what is reported as skipped, class by class.
-/

namespace LuaAccessors.Cpp

/-! ## §1 Classes -/

/-- A class of a header. -/
inductive HeaderClass where
  /-- The class for a script. -/
  | script (r : ParseResult)
  /-- The class for a table inside the classes for the tables `scope`, the outermost of which comes
  first. -/
  | wrapper (scope : List Text) (luaName : Text) (fields : List Field)

namespace HeaderClass

/-- The name of the class. -/
def ownName : HeaderClass → Text
  | script r => scriptClassName r.fileName
  | wrapper _ luaName _ => tableClassName luaName

/-- The tables that lead to the class. -/
def path : HeaderClass → List Text
  | script _ => []
  | wrapper scope luaName _ => scope ++ [luaName]

/-- The methods that the class has whatever its members are. -/
def builtIn : HeaderClass → List Text
  | script _ => []
  | wrapper _ _ _ => [rawTableName]

/-- The names that no member of the class can get. -/
def reserved (c : HeaderClass) : List Text := c.ownName :: c.builtIn

/-- The exposed members, functions first. -/
def candidates : HeaderClass → List Member
  | script r => exposed (r.functions.map .function) ++ exposed (r.globals.map .global)
  | wrapper _ _ fields => exposed (fields.map .field)

/-- The members that the class declares. -/
def declared (c : HeaderClass) : List Member := (claim c.reserved c.candidates).claimed

/-- The exposed members that the class does not declare. -/
def leftOut (c : HeaderClass) : List Member := (claim c.reserved c.candidates).leftOut

/-- What the class declares for its members. -/
def accessors (c : HeaderClass) : List Accessor := c.declared.map .ofMember

/-- Where the members of the class live. -/
def owner : HeaderClass → Owner
  | script _ => .state
  | wrapper _ _ _ => .table

/-- The classes directly inside, one for each table that is declared. -/
def tables (c : HeaderClass) : List HeaderClass :=
  (c.declared.filter Member.isTable).map fun m => wrapper c.path m.name m.fields

/-- The lines that declare the class, at the left margin. -/
def lines : HeaderClass → List Text
  | script r => scriptClassLines (.ofResult r)
  | wrapper scope luaName fields =>
    classLines (if scope.isEmpty then .state else .table) (tableAccessor luaName fields)

theorem mem_tables {c d : HeaderClass} :
    d ∈ c.tables ↔ ∃ m ∈ c.declared, m.isTable = true ∧ d = wrapper c.path m.name m.fields := by
  simp only [tables, List.mem_map, List.mem_filter, and_assoc, eq_comm]

/-! ## §2 Classes inside classes

The classes of a header are listed in pre-order: a class first, then for each of its tables the classes inside
it. Induction over them is induction over the depth of tables.
-/

/-- How large the tables are that the classes inside are for. -/
noncomputable def weight : HeaderClass → Nat
  | script r => sizeOf r.globals
  | wrapper _ _ fields => sizeOf fields

/-- A candidate that is a table comes with less than its class. -/
theorem sizeOf_fields_lt {c : HeaderClass} {m : Member} (hm : m ∈ c.candidates)
    (htable : m.isTable = true) : sizeOf m.fields < c.weight := by
  cases c with
  | script r =>
    rcases List.mem_append.1 hm with hm | hm
    · -- Functions are no tables.
      obtain ⟨f, -, rfl⟩ := List.mem_map.1 (mem_of_mem_exposed hm)
      cases htable
    · obtain ⟨g, hg, rfl⟩ := List.mem_map.1 (mem_of_mem_exposed hm)
      have := List.sizeOf_lt_of_mem hg
      cases g
      simp only [Member.fields, weight, Global.mk.sizeOf_spec] at this ⊢
      omega
  | wrapper scope luaName fields =>
    obtain ⟨f, hf, rfl⟩ := List.mem_map.1 (mem_of_mem_exposed hm)
    have := List.sizeOf_lt_of_mem hf
    cases f
    simp only [Member.fields, weight, Field.mk.sizeOf_spec] at this ⊢
    omega

theorem weight_lt {c d : HeaderClass} (h : d ∈ c.tables) : d.weight < c.weight := by
  obtain ⟨m, hm, htable, rfl⟩ := mem_tables.1 h
  exact sizeOf_fields_lt (mem_of_mem_claimed hm) htable

/-- The class and all classes inside it, outer ones before inner ones. -/
def withInner (c : HeaderClass) : List HeaderClass :=
  c :: c.tables.attach.flatMap fun ⟨d, _⟩ => d.withInner
termination_by c.weight
decreasing_by exact weight_lt ‹_›

theorem withInner_eq (c : HeaderClass) : c.withInner = c :: c.tables.flatMap withInner := by
  rw [withInner, List.flatMap_def, List.flatMap_def]
  exact congrArg (c :: ·.flatten) (List.attach_map_val (f := withInner))

theorem mem_withInner_iff {c d : HeaderClass} :
    d ∈ c.withInner ↔ d = c ∨ ∃ e ∈ c.tables, d ∈ e.withInner := by
  rw [withInner_eq, List.mem_cons, List.mem_flatMap]

theorem self_mem_withInner (c : HeaderClass) : c ∈ c.withInner := mem_withInner_iff.2 (.inl rfl)

/-- What holds of a class as soon as it holds of the classes directly inside holds of every class. -/
@[elab_as_elim]
theorem induction {motive : HeaderClass → Prop}
    (step : ∀ c : HeaderClass, (∀ d ∈ c.tables, motive d) → motive c) (c : HeaderClass) :
    motive c :=
  step c fun d _ => induction step d
termination_by c.weight
decreasing_by exact weight_lt ‹_›

/-- What classes hand down to those directly inside holds of all classes inside. -/
theorem forall_withInner {P : HeaderClass → Prop}
    (step : ∀ c : HeaderClass, P c → ∀ d ∈ c.tables, P d) (c : HeaderClass) (hc : P c) :
    ∀ d ∈ c.withInner, P d := by
  induction c using HeaderClass.induction with
  | step c ih =>
    intro d hd
    rcases mem_withInner_iff.1 hd with rfl | ⟨e, he, hd⟩
    · exact hc
    · exact ih e he (step c hc e he) d hd

/-- What stands directly inside a class inside stands inside. -/
theorem mem_withInner_of_mem_tables {c d e : HeaderClass} (hd : d ∈ c.withInner) (he : e ∈ d.tables) :
    e ∈ c.withInner := by
  -- What is carried down is that all classes inside `d` are inside `c`.
  have hwhole : ∀ x ∈ d.withInner, x ∈ c.withInner := by
    apply forall_withInner (P := fun d => ∀ x ∈ d.withInner, x ∈ c.withInner) ?_ c (fun x hx => hx)
      d hd
    intro d hwhole e he x hx
    apply hwhole
    exact mem_withInner_iff.2 (.inr ⟨e, he, hx⟩)
  apply hwhole
  exact mem_withInner_iff.2 (.inr ⟨e, he, e.self_mem_withInner⟩)

/-- A class inside another one is directly inside some class. -/
theorem eq_or_mem_tables {c d : HeaderClass} (hd : d ∈ c.withInner) :
    d = c ∨ ∃ e : HeaderClass, d ∈ e.tables := by
  apply forall_withInner (P := fun d => d = c ∨ ∃ e : HeaderClass, d ∈ e.tables) ?_ c (.inl rfl) d hd
  intro e _ d hd
  exact .inr ⟨e, hd⟩

/-! ## §3 Accessors of a class -/

/-- The class for a table declares what the list of classes has for it. -/
theorem tableAccessor_eq (scope : List Text) (luaName : Text) (fields : List Field) :
    tableAccessor luaName fields =
      .table luaName (wrapper scope luaName fields).accessors
        ((wrapper scope luaName fields).leftOut.map Member.name) := by
  have hmembers : ((tableClaims luaName fields).claimed.attach.map fun ⟨m, _⟩ =>
        if m.isTable then tableAccessor m.name m.fields
        else .property m.name (.ofValue m.valueType m.explicitType)) =
      (wrapper scope luaName fields).accessors := by
    -- Inside a table there are fields only, so the two ways to make an accessor of a member agree.
    calc _ = (tableClaims luaName fields).claimed.attach.map fun m => Accessor.ofMember m.1 := by
          apply List.map_congr_left
          rintro ⟨m, hm⟩ -
          obtain ⟨f, -, rfl⟩ := mem_of_mem_tableClaims hm
          rfl
      _ = (wrapper scope luaName fields).accessors := List.attach_map_val
  rw [tableAccessor, hmembers]
  rfl

/-- What only the tables of a class add to is added by the classes directly inside. -/
theorem flatMap_accessors {α : Type} {f : Accessor → List α} {g : HeaderClass → List α}
    {c : HeaderClass} (hmethod : ∀ x, f (.method x) = [])
    (hproperty : ∀ luaName type, f (.property luaName type) = [])
    (htable : ∀ d ∈ c.tables, ∀ luaName fields, d = wrapper c.path luaName fields →
      f (tableAccessor luaName fields) = g d) :
    c.accessors.flatMap f = c.tables.flatMap g := by
  have hdeclared : ∀ m ∈ c.declared, m.isTable = true →
      f (tableAccessor m.name m.fields) = g (wrapper c.path m.name m.fields) := fun m hm h =>
    htable _ (mem_tables.2 ⟨m, hm, h, rfl⟩) _ _ rfl
  unfold accessors tables
  generalize c.declared = members at hdeclared
  induction members with
  | nil => rfl
  | cons m rest ih =>
    have ih := ih fun e he => hdeclared e (List.mem_cons_of_mem _ he)
    rw [List.map_cons, List.flatMap_cons, ih]
    -- Functions and values add nothing, and a table adds what its class adds.
    rcases m.cases_declared with ⟨x, rfl⟩ | ⟨hm, -, -, hmember⟩ | ⟨hm, -, -, type, hmember⟩
    · rw [Accessor.ofMember, hmethod]
      rfl
    · rw [hmember, hdeclared m List.mem_cons_self hm, List.filter_cons_of_pos hm]
      rfl
    · rw [hmember, hproperty, List.filter_cons_of_neg (by simp [hm])]
      rfl

/-! ## §4 Lines -/

/-- What is said of the class. -/
def docLine : HeaderClass → Text
  | script r => line ["/// Strongly-typed bindings for ", r.fileName, ".lua"]
  | wrapper scope luaName _ =>
    line ["/// ", (if scope.isEmpty then Owner.state else Owner.table).classDoc luaName]

/-- The line that opens the class. -/
def headLine (c : HeaderClass) : Text := line ["class ", c.ownName, r" {"]

/-- The constructor. -/
def constructorLines : HeaderClass → List Text
  | script r => [
    line ["/// Creates a binding wrapper over a Lua state that has already run ", r.fileName, ".lua"],
    line ["explicit ", scriptClassName r.fileName, "(sol::state_view lua) : lua_(lua) {}"],
    ""]
  | wrapper _ luaName _ => [
    line ["explicit ", tableClassName luaName,
      "(sol::table table) : table_(std::move(table)) {}"],
    ""]

/-- The methods that the class has whatever its members are. -/
def builtInLines : HeaderClass → List Text
  | script _ => []
  | wrapper _ _ _ => [
    "/// Gets the underlying sol::table for advanced access",
    "sol::table& RawTable() { return table_; }",
    ""]

/-- The private member that the values are read from. -/
def handleLine : HeaderClass → Text
  | script _ => "sol::state_view lua_;"
  | wrapper _ _ _ => "sol::table table_;"

/-- The public declarations: inner classes, the constructor, the members, the built-in methods. -/
def publicLines (c : HeaderClass) : List Text :=
  c.tables.flatMap lines ++ c.constructorLines ++ c.accessors.flatMap (accessorLines c.owner)
    ++ c.builtInLines

/-- The private declarations. -/
def privateLines (c : HeaderClass) : List Text :=
  c.handleLine :: c.accessors.flatMap cacheLines

/-- The classes directly inside, written one after the other. -/
theorem flatMap_classLines (c : HeaderClass) :
    c.accessors.flatMap (classLines (if c.path.isEmpty then .state else .table)) =
      c.tables.flatMap lines := by
  apply flatMap_accessors
  case hmethod => exact fun _ => rfl
  case hproperty => exact fun _ _ => rfl
  case htable =>
    rintro d - luaName fields rfl
    rfl

theorem innerClassLines_eq (accessors : List Accessor) :
    innerClassLines accessors = accessors.flatMap (classLines .table) := by
  induction accessors with
  | nil => rfl
  | cons a rest ih => rw [innerClassLines, List.flatMap_cons, ih]

/-- **What a class is written as**: its head, its public and its private declarations. -/
theorem lines_eq (c : HeaderClass) :
    c.lines = [c.docLine, c.headLine, "public:"] ++ indent c.publicLines
      ++ (["private:"] : List Text) ++ indent c.privateLines ++ ([r"};", ""] : List Text) := by
  -- Where the class writes the classes for its tables, it writes the classes directly inside.
  have hinner := c.flatMap_classLines
  cases c with
  | script r =>
    simp only [path, List.isEmpty_nil, if_true] at hinner
    rw [publicLines, ← hinner, builtInLines, List.append_nil]
    simp only [indent, List.map_append, ← List.append_assoc]
    rfl
  | wrapper scope luaName fields =>
    have hpath : (wrapper scope luaName fields).path.isEmpty = false := by simp [path]
    rw [hpath, if_neg Bool.false_ne_true] at hinner
    rw [publicLines, ← hinner, lines, tableAccessor_eq scope, classLines, innerClassLines_eq]
    simp only [indent, List.map_append, ← List.append_assoc]
    rfl

/-- A class is written inside the class around it, one level to the right. -/
theorem indent_lines_within {c d : HeaderClass} (hd : d ∈ c.tables) :
    indent d.lines <:+: c.lines := by
  obtain ⟨before, after, hsplit⟩ := List.append_of_mem hd
  -- From the inside out: the classes for tables, the public part, the class.
  have htables : indent d.lines <:+: indent (c.tables.flatMap lines) := by
    refine ⟨indent (before.flatMap lines), indent (after.flatMap lines), ?_⟩
    simp [hsplit, indent]
  have hpublic : indent (c.tables.flatMap lines) <:+: indent c.publicLines := by
    refine ⟨[], indent (c.constructorLines ++ c.accessors.flatMap (accessorLines c.owner)
      ++ c.builtInLines), ?_⟩
    simp only [publicLines, indent, List.map_append, List.append_assoc, List.nil_append]
  have hlines : indent c.publicLines <:+: c.lines := by
    rw [lines_eq]
    simp only [List.append_assoc]
    apply List.infix_append'
  exact (htables.trans hpublic).trans hlines

end HeaderClass

/-- The classes of the header for a schema, outer ones before inner ones. -/
def classes (r : ParseResult) : List HeaderClass := (HeaderClass.script r).withInner

/-- **Every class is written**: its lines stand in the header, one level to the right for each table that
leads to it. -/
theorem class_within_header {r : ParseResult} {c : HeaderClass} (hc : c ∈ classes r) :
    (indent^[c.path.length]) c.lines <:+: scriptClassLines (.ofResult r) := by
  apply HeaderClass.forall_withInner (P := fun c =>
    (indent^[c.path.length]) c.lines <:+: scriptClassLines (.ofResult r)) ?_ (.script r)
    (List.infix_refl _) c hc
  intro d hd e he
  obtain ⟨m, -, -, hpath⟩ := HeaderClass.mem_tables.1 he
  have hlength : e.path.length = d.path.length + 1 := by simp [hpath, HeaderClass.path]
  rw [hlength, Function.iterate_succ_apply]
  refine List.IsInfix.trans ?_ hd
  -- Moving both to the right keeps one inside the other.
  have hinside := HeaderClass.indent_lines_within he
  generalize indent e.lines = inner at hinside
  generalize d.lines = outer at hinside
  induction d.path.length generalizing inner outer with
  | zero => exact hinside
  | succ n ih =>
    rw [Function.iterate_succ_apply, Function.iterate_succ_apply]
    exact ih _ _ (hinside.map indentLine)

/-! ## §5 Members that no class declares -/

namespace HeaderClass

/-- The dotted names of the members that the class leaves out. -/
def skippedNames (c : HeaderClass) : List Text :=
  c.leftOut.map fun m => Text.join ['.'] (c.path ++ [m.name])

/-- What stands in front of the names of skipped members. -/
def scopeText (path : List Text) : Text := path.flatMap (· ++ ['.'])

theorem join_dot (path : List Text) (name : Text) :
    Text.join ['.'] (path ++ [name]) = scopeText path ++ name := by
  induction path with
  | nil => rfl
  | cons first rest ih =>
    obtain ⟨second, others, hrest⟩ : ∃ second others, rest ++ [name] = second :: others :=
      List.exists_cons_of_ne_nil (by simp)
    rw [List.cons_append, hrest, Text.join, ← hrest, ih]
    simp [scopeText]

theorem skippedIn_eq (scope : Text) (accessors : List Accessor) :
    skippedIn scope accessors = accessors.flatMap (Accessor.skipped scope) := by
  induction accessors with
  | nil => rfl
  | cons a rest ih => rw [skippedIn, List.flatMap_cons, ih]

/-- What is skipped inside a class, class by class. -/
theorem skippedIn_accessors (c : HeaderClass) :
    skippedIn (scopeText c.path) c.accessors =
      c.tables.flatMap fun d => d.withInner.flatMap skippedNames := by
  induction c using HeaderClass.induction with
  | step c ih =>
    rw [skippedIn_eq]
    apply flatMap_accessors
    case hmethod => exact fun _ => rfl
    case hproperty => exact fun _ _ => rfl
    case htable =>
      rintro d hd luaName fields rfl
      -- One level down the path has the name of the table at its end.
      have hscope : scopeText c.path ++ luaName ++ ['.'] =
          scopeText (wrapper c.path luaName fields).path := by
        simp [scopeText, path]
      rw [tableAccessor_eq c.path, Accessor.skipped, hscope, ih _ hd, withInner_eq,
        List.flatMap_cons, List.flatMap_assoc]
      congr 1
      simp [skippedNames, join_dot, List.map_map, Function.comp_def]

end HeaderClass

/-- **What is reported as skipped** are the members that the classes leave out, class by class and outer
classes before inner ones, each with the path of the tables around it. -/
theorem skipped_eq (r : ParseResult) :
    (ScriptClass.ofResult r).skipped = (classes r).flatMap HeaderClass.skippedNames := by
  have houter : (ScriptClass.ofResult r).leftOut = (HeaderClass.script r).skippedNames := rfl
  have hinner := (HeaderClass.script r).skippedIn_accessors
  rw [ScriptClass.skipped, classes, HeaderClass.withInner_eq, List.flatMap_cons, List.flatMap_assoc,
    ← houter, ← hinner]
  rfl

end LuaAccessors.Cpp
