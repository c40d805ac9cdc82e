import LuaAccessors.Proofs.Cpp.PrivateNames

/-!
# The accessors of tables

The accessor of a table returns a reference to an object of the class for the table, which it keeps in a private
member of its own class. Both can be read off the lines: the class stands in the head of the accessor, and the
member in the lines of its body that test it, fill it and return it.

- `isTableHead`, `usedMember?`: the line that opens an accessor, and the lines of its body that work on a member;
- `TableAccessor`, `tableAccessors`: the accessors of tables among some lines, as they are read;
- `TableAccessor.IsKept`: what a private part declares for an accessor;
- `HeaderClass.tableAccessors_publicLines`: the accessors of a class of a header;
- `HeaderClass.isKept_of_mem_tableAccessors`: each of them has the member that it works on;
- `HeaderClass.DeclaresTable`: where a class declares what belongs to one of its tables.
-/

namespace LuaAccessors.Cpp

open Lexis

/-! ## §1 Reading an accessor

The head of the accessor stands at the left margin, its body further to the right, and the next line at the margin
is the brace that ends the body. What a line of the body says is recognized by how it starts, so a text that the
script has brought along, which stands behind a quote, is not taken for code.
-/

/-- The line opens an accessor that returns a reference, as in `XTable& X() {`. -/
def isTableHead (l : Text) : Bool := (firstWord l).getLast? == some '&' && l.getLast? == some '{'

/-- The member that a line of a body works on: it is tested in `if (!x)`, returned in `return *x`, and filled in
`x.emplace(…)`. -/
def usedMember? (l : Text) : Option Text :=
  let code := l.dropWhile (· == ' ')
  let name (t : Text) : Text := t.takeWhile isNamePart
  match "if (!".toList.isPrefixOf? code with
  | some rest => some (name rest)
  | none =>
    match "return *".toList.isPrefixOf? code with
    | some rest => some (name rest)
    | none => if ".emplace(".toList.isPrefixOf (code.dropWhile isNamePart) then some (name code) else none

/-- An accessor of a table, as it is read. -/
structure TableAccessor where
  /-- The class that it returns a reference to. -/
  typeName : Text
  /-- Its own name. -/
  name : Text
  /-- The members that its body works on, line by line. -/
  used : List Text
  deriving Repr, DecidableEq

/-- The accessors of tables among some lines, each with its body. -/
def tableAccessors : List Text → List TableAccessor
  | [] => []
  | l :: below =>
    if isTableHead l then
      { typeName := (firstWord l).dropLast
        name := (behindFirstWord l).takeWhile (· != '(')
        used := (below.takeWhile (· != ['}'])).filterMap usedMember? } :: tableAccessors below
    else tableAccessors below

/-- A class keeps what the accessor returns: its body works on one member only, and the private part of the class
declares this member as an optional object of the class that the accessor returns. -/
def TableAccessor.IsKept (a : TableAccessor) (block : List Text) : Prop :=
  ∃ member, a.used ≠ [] ∧ (∀ name ∈ a.used, name = member) ∧
    ∃ l ∈ privatePart block, firstWord l = "std::optional<".toList ++ a.typeName ++ ['>'] ∧
      variableName l = member

/-! ### Lines without a head -/

theorem isTableHead_of_firstWord {l : Text} (h : (firstWord l).getLast? ≠ some '&') :
    isTableHead l = false := by
  simp [isTableHead, h]

theorem isTableHead_type (type : CppType) (more : Text) : isTableHead (type.text ++ ' ' :: more) = false := by
  apply isTableHead_of_firstWord
  rw [(firstWord_append (type_word type).1 more).1]
  cases type <;> decide

/-- The lines of a body are no heads. -/
theorem isTableHead_space (l : Text) : isTableHead (' ' :: l) = false := by
  simp [isTableHead, firstWord]

theorem isTableHead_comment (l : Text) : isTableHead ('/' :: '/' :: '/' :: ' ' :: l) = false := by
  simp [isTableHead, firstWord]

/-- Lines in front of which no accessor opens are passed over. -/
theorem tableAccessors_append {xs : List Text} (h : ∀ l ∈ xs, isTableHead l = false) (ys : List Text) :
    tableAccessors (xs ++ ys) = tableAccessors ys := by
  induction xs with
  | nil => rfl
  | cons l xs ih =>
    rw [List.cons_append, tableAccessors, h l List.mem_cons_self, if_neg Bool.false_ne_true]
    exact ih fun k hk => h k (List.mem_cons_of_mem _ hk)

/-- Lines that have been moved to the right open no accessor. -/
theorem isTableHead_of_mem_indent {lines : List Text} {l : Text} (h : l ∈ indent lines) :
    isTableHead l = false := by
  obtain ⟨l, -, rfl⟩ := List.mem_map.1 h
  cases l <;> rfl

theorem isTableHead_of_mem_methodLines {f : Function} : ∀ l ∈ methodLines f, isTableHead l = false := by
  have hdeclaration := isTableHead_type (.ofResult f.returnType)
  have hbrace : isTableHead ['}'] = false := rfl
  have hempty : isTableHead [] = false := rfl
  unfold methodLines
  simp [line, or_imp, forall_and, isTableHead_comment, isTableHead_space, hbrace, hempty, hdeclaration]

theorem isTableHead_of_mem_propertyLines {o : Owner} {luaName : Text} {type : CppType} :
    ∀ l ∈ propertyLines o luaName type, isTableHead l = false := by
  have hdeclaration := isTableHead_type type
  have hsetter : ∀ more, isTableHead ('v' :: 'o' :: 'i' :: 'd' :: ' ' :: more) = false :=
    isTableHead_type .void
  have hempty : isTableHead [] = false := rfl
  unfold propertyLines
  simp [line, isTableHead_comment, hempty, hdeclaration, hsetter]

/-! ## §2 The accessor of a table

Every line of the body is read on its own. Three of them work on the member; what the others say about the script
stands behind a quote.
-/

/-- The head of an accessor, and the names in it. -/
theorem isTableHead_tableLines {luaName : Text} (haccessor : isIdentifier (pascalCase luaName) = true)
    (hclass : isIdentifier (tableClassName luaName) = true) :
    let head := line [tableClassName luaName, "& ", pascalCase luaName, r"() {"]
    isTableHead head = true ∧ (firstWord head).dropLast = tableClassName luaName ∧
      (behindFirstWord head).takeWhile (· != '(') = pascalCase luaName := by
  have hparenthesis : '(' ∉ pascalCase luaName := not_mem_of_isIdentifier haccessor (by decide)
  have hline : line [tableClassName luaName, "& ", pascalCase luaName, r"() {"] =
      (tableClassName luaName ++ ['&']) ++ ' ' :: (pascalCase luaName ++ '(' :: r") {".toList) := by
    simp [line]
  obtain ⟨hfirst, hrest⟩ := firstWord_append (tableClass_word hclass).1
    (pascalCase luaName ++ '(' :: r") {".toList)
  -- The line is a head by its first word, which ends in an ampersand, and by the brace at its end.
  have hlast : (line [tableClassName luaName, "& ", pascalCase luaName, r"() {"]).getLast? = some '{' := by
    have hend : line [tableClassName luaName, "& ", pascalCase luaName, r"() {"] =
        (tableClassName luaName ++ "& ".toList ++ pascalCase luaName ++ "() ".toList) ++ ['{'] := by
      simp [line]
    rw [hend, List.getLast?_concat]
  rw [← hline] at hfirst hrest
  refine ⟨?_, ?_, ?_⟩
  · rw [isTableHead, hfirst, hlast, List.getLast?_concat]
    rfl
  · rw [hfirst, List.dropLast_concat]
  · rw [hrest, Text.takeWhile_append_cons hparenthesis]

/-- A member that is tested. -/
theorem usedMember?_tested {name : Text} (h : ∀ c ∈ name, isNamePart c = true) :
    usedMember? (line ["    if (!", name, r") {"]) = some name := by
  show some ((name ++ ')' :: _).takeWhile isNamePart) = some name
  rw [List.takeWhile_append_of_pos h, List.takeWhile_cons_of_neg (by decide), List.append_nil]

/-- A member that is returned. -/
theorem usedMember?_returned {name : Text} (h : ∀ c ∈ name, isNamePart c = true) :
    usedMember? (line ["    return *", name, ";"]) = some name := by
  show some ((name ++ [';']).takeWhile isNamePart) = some name
  rw [List.takeWhile_append_of_pos h, List.takeWhile_cons_of_neg (by decide), List.append_nil]

/-- A member that is filled. -/
theorem usedMember?_filled (luaName : Text) :
    usedMember? (line ["        ", tableCacheName luaName, ".emplace(value.as<sol::table>());"]) =
      some (tableCacheName luaName) := by
  have hname := isNamePart_of_mem_tableCacheName luaName
  have hline : usedMember? (line ["        ", tableCacheName luaName, ".emplace(value.as<sol::table>());"]) =
      if ".emplace(".toList.isPrefixOf ((tableCacheName luaName ++
          ".emplace(value.as<sol::table>());".toList).dropWhile isNamePart) then
        some ((tableCacheName luaName ++ ".emplace(value.as<sol::table>());".toList).takeWhile isNamePart)
      else none := rfl
  rw [hline, List.dropWhile_append_of_pos hname, List.takeWhile_append_of_pos hname,
    show ".emplace(value.as<sol::table>());".toList.takeWhile isNamePart = [] from rfl, List.append_nil]
  exact if_pos rfl

/-- The lines of an accessor: its head between a comment and its body, and the end of the body. -/
theorem exists_body_tableLines (o : Owner) (luaName : Text) :
    ∃ doc body, tableLines o luaName =
        doc :: line [tableClassName luaName, "& ", pascalCase luaName, r"() {"] :: (body ++ [['}'], []]) ∧
      isTableHead doc = false ∧ (∀ l ∈ body, l.head? = some ' ') ∧
      body.filterMap usedMember? = List.replicate 3 (tableCacheName luaName) := by
  refine ⟨_, [_, _, _, _, _, _, _, _], rfl, isTableHead_comment _, ?_, ?_⟩
  · simp [line]
  · have hcache := isNamePart_of_mem_tableCacheName luaName
    -- Of the lines of the body three name the member: the test, the line that fills it and the one that returns
    -- it.
    have hvalue : usedMember? (line ["        sol::object value = ", o.source, "[\"", luaName, "\"];"]) = none := rfl
    have hthrow : usedMember? (line ["            throw std::runtime_error(\"Lua ", o.kind, " '", luaName,
      "' is not a table\");"]) = none := rfl
    simp only [List.filterMap_cons, usedMember?_tested hcache, usedMember?_returned hcache,
      usedMember?_filled, hvalue, hthrow]
    rfl

/-- **The accessor of a table is read back**, with the one member that its body works on. -/
theorem tableAccessors_tableLines (o : Owner) {luaName : Text}
    (haccessor : isIdentifier (pascalCase luaName) = true)
    (hclass : isIdentifier (tableClassName luaName) = true) (below : List Text) :
    tableAccessors (tableLines o luaName ++ below) =
      { typeName := tableClassName luaName, name := pascalCase luaName
        used := List.replicate 3 (tableCacheName luaName) } :: tableAccessors below := by
  obtain ⟨doc, body, hlines, hdoc, hbody, hused⟩ := exists_body_tableLines o luaName
  obtain ⟨hhead, htype, hname⟩ := isTableHead_tableLines haccessor hclass
  have hmargin : ∀ l ∈ body, (l != ['}']) = true := by
    intro l hl
    rw [bne_iff_ne]
    rintro rfl
    cases hbody _ hl
  have hend : (body ++ ['}'] :: [] :: below).takeWhile (· != ['}']) = body := by
    rw [List.takeWhile_append_of_pos hmargin, List.takeWhile_cons_of_neg (by simp), List.append_nil]
  -- The body and its end hold no other head.
  have hrest : tableAccessors (body ++ ['}'] :: [] :: below) = tableAccessors below := by
    rw [tableAccessors_append]
    · rfl
    · intro l hl
      obtain ⟨rest, rfl⟩ := List.head?_eq_some_iff.1 (hbody l hl)
      exact isTableHead_space rest
  rw [hlines, List.cons_append, List.cons_append, List.append_assoc]
  show tableAccessors (doc :: _ :: (body ++ ['}'] :: [] :: below)) = _
  rw [tableAccessors, hdoc, if_neg Bool.false_ne_true, tableAccessors, hhead, if_pos rfl, htype, hname, hend,
    hused, hrest]

/-! ## §3 The accessors of a class

The accessors stand behind the classes for the tables, whose own accessors are further to the right.
-/

/-- The accessor of a table, as it is read. -/
def TableAccessor.ofMember (m : Member) : TableAccessor where
  typeName := tableClassName m.name
  name := pascalCase m.name
  used := List.replicate 3 (tableCacheName m.name)

namespace HeaderClass

variable {c : HeaderClass}

/-- A table among the members of a class is written as one. -/
theorem ofMember_of_isTable {m : Member} (htable : m.isTable = true) :
    Accessor.ofMember m = tableAccessor m.name m.fields := by
  rcases m.cases_declared with ⟨f, rfl⟩ | ⟨-, -, -, hmember⟩ | ⟨hvalue, -⟩
  · cases htable
  · exact hmember
  · simp [hvalue] at htable

/-- The accessors of some members of a class, as they are read in front of other lines. -/
theorem tableAccessors_flatMap {ms : List Member} (hms : ∀ m ∈ ms, m ∈ c.declared) (below : List Text) :
    tableAccessors (ms.flatMap (fun m => accessorLines c.owner (.ofMember m)) ++ below) =
      (ms.filter Member.isTable).map TableAccessor.ofMember ++ tableAccessors below := by
  induction ms with
  | nil => rfl
  | cons m ms ih =>
    have ih' := ih fun e he => hms e (List.mem_cons_of_mem _ he)
    rw [List.flatMap_cons, List.append_assoc]
    rcases m.cases_declared with ⟨f, rfl⟩ | ⟨htable, hnames, -, hmember⟩ | ⟨hvalue, -, -, type, hmember⟩
    · -- Functions and plain values have no such accessor and are passed over.
      exact (tableAccessors_append isTableHead_of_mem_methodLines _).trans ih'
    · have hname : ∀ name ∈ m.cppNames, isIdentifier name = true :=
        fun _ h => (name_of_claimed (hms m List.mem_cons_self) h).1
      rw [hnames] at hname
      -- A table has one, whose body ends inside the lines of the member.
      rw [hmember, tableAccessor_eq [], List.filter_cons_of_pos htable]
      refine (tableAccessors_tableLines c.owner (hname _ (by simp)) (hname _ (by simp)) _).trans ?_
      exact congrArg (TableAccessor.ofMember m :: ·) ih'
    · rw [hmember, List.filter_cons_of_neg (by simp [hvalue])]
      exact (tableAccessors_append isTableHead_of_mem_propertyLines _).trans ih'

/-- At the margin of its lines a class has no accessor. -/
theorem isTableHead_of_mem_lines : ∀ l ∈ c.lines, isTableHead l = false := by
  have hhead : isTableHead c.headLine = false := by
    apply isTableHead_of_firstWord
    rw [c.words_headLine.1]
    decide
  have hdoc : isTableHead c.docLine = false := by cases c <;> rfl
  have hfixed : isTableHead "public:".toList = false ∧ isTableHead "private:".toList = false ∧
      isTableHead r"};".toList = false ∧ isTableHead [] = false := by decide
  -- All lines of an inner class but these are indented, and heads of accessors stand at the margin of the part
  -- that they are in.
  intro l hl
  rw [lines_eq_front] at hl
  simp only [front, List.mem_append, List.mem_cons, List.not_mem_nil, or_false] at hl
  rcases hl with (rfl | rfl) | rfl | hl | rfl | hl | rfl | rfl
  · exact hdoc
  · exact hhead
  · exact hfixed.1
  · exact isTableHead_of_mem_indent hl
  · exact hfixed.2.1
  · exact isTableHead_of_mem_indent hl
  · exact hfixed.2.2.1
  · exact hfixed.2.2.2

/-- **The accessors of tables in a class** are those of the tables that it declares, in their order. -/
theorem tableAccessors_publicLines (c : HeaderClass) :
    tableAccessors c.publicLines = (c.declared.filter Member.isTable).map TableAccessor.ofMember := by
  have htables : ∀ l ∈ c.tables.flatMap lines, isTableHead l = false := by
    intro l hl
    obtain ⟨d, -, hl⟩ := List.mem_flatMap.1 hl
    exact isTableHead_of_mem_lines l hl
  have hfixed : (∀ l ∈ c.constructorLines, isTableHead l = false) ∧ tableAccessors c.builtInLines = [] := by
    constructor
    · cases c <;> simp [constructorLines, line, isTableHead, firstWord]
    · cases c <;> rfl
  rw [publicLines, List.append_assoc, List.append_assoc, tableAccessors_append htables,
    tableAccessors_append hfixed.1, accessors, List.flatMap_map, tableAccessors_flatMap (fun _ h => h),
    hfixed.2, List.append_nil]

/-- Where a class declares what belongs to a table: the whole class for the table stands in front of the
accessor, and the member that the accessor keeps it in stands in the private part. -/
structure DeclaresTable (c : HeaderClass) (m : Member) : Prop where
  class_before_accessor : ∃ before between behind,
    publicPart c.lines = before ++ (wrapper c.path m.name m.fields).lines ++ between
      ++ tableLines c.owner m.name ++ behind
  cache_declared :
    line ["std::optional<", tableClassName m.name, "> ", tableCacheName m.name, ";"] ∈ privatePart c.lines

theorem declaresTable {m : Member} (hm : m ∈ c.declared) (htable : m.isTable = true) :
    c.DeclaresTable m := by
  have hmember := ofMember_of_isTable htable
  have haccessor : .ofMember m ∈ c.accessors := List.mem_map_of_mem hm
  constructor
  · obtain ⟨front, between, htables⟩ :=
      List.append_of_mem (mem_tables.2 ⟨m, hm, htable, rfl⟩ : wrapper c.path m.name m.fields ∈ c.tables)
    obtain ⟨middle, behind, haccessors⟩ := List.append_of_mem haccessor
    -- All classes for tables stand in front of the first accessor, so the one for `m` does, whatever its place is.
    refine ⟨front.flatMap lines, between.flatMap lines ++ c.constructorLines
      ++ middle.flatMap (accessorLines c.owner), behind.flatMap (accessorLines c.owner)
      ++ c.builtInLines, ?_⟩
    rw [publicPart_lines, publicLines, htables, haccessors, List.flatMap_append, List.flatMap_append,
      List.flatMap_cons, List.flatMap_cons, hmember, tableAccessor_eq c.path, accessorLines]
    simp only [List.append_assoc]
  · rw [privatePart_lines, privateLines]
    apply List.mem_cons_of_mem
    apply List.mem_flatMap.2
    refine ⟨_, haccessor, ?_⟩
    rw [hmember, tableAccessor_eq c.path]
    exact List.mem_singleton_self _

/-- **Each accessor of a table has the member that it works on**, as an object of the class that it returns. -/
theorem isKept_of_mem_tableAccessors {a : TableAccessor} (ha : a ∈ tableAccessors (publicPart c.lines)) :
    a.IsKept c.lines := by
  rw [publicPart_lines, tableAccessors_publicLines] at ha
  obtain ⟨m, hm, rfl⟩ := List.mem_map.1 ha
  obtain ⟨hdeclared, htable⟩ := List.mem_filter.1 hm
  -- The class that the accessor returns is among the names that the member has claimed, so it is a name.
  have hclass : tableClassName m.name ∈ m.cppNames := by
    rcases m.cases_declared with ⟨f, rfl⟩ | ⟨-, hnames, -⟩ | ⟨hvalue, -⟩
    · cases htable
    · simp [hnames]
    · simp [hvalue] at htable
  obtain ⟨htype, hname⟩ := words_tableCacheLine (name_of_claimed hdeclared hclass).1
  exact ⟨tableCacheName m.name, by simp [TableAccessor.ofMember], fun _ => List.eq_of_mem_replicate, _,
    (declaresTable hdeclared htable).cache_declared, htype, hname⟩

end HeaderClass

end LuaAccessors.Cpp
