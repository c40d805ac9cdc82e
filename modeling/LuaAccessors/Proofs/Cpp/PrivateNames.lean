import Mathlib.Data.List.Pairwise
import LuaAccessors.Proofs.Cpp.Name
import LuaAccessors.Proofs.Cpp.PublicNames
import LuaAccessors.Proofs.Extraction.Names
import LuaAccessors.Proofs.TableLiteral.Fields

/-!
# Private names of a class

A class keeps privately what its values are read from and, for each function and each table, what the first
call has found. The names of these members come from the Lua names by a conversion of their own, so they are
not claimed: that they are distinct has to follow from the names that are.

For names of ASCII characters it does. Fields may have other letters in their names, which all become
underscores, and there it does not.

- `privatePart`, `privateNames`: the names of the private members, read off the lines of a class;
- `privateNames_lines`: which names a class declares privately;
- `SharesCache`: two tables that are kept under one name;
- `privateNames_wellFormed`: names are distinct as long as no two tables share one;
- `not_all_private_names_distinct`: two fields of a table that share one.
-/

namespace LuaAccessors

open Cpp

/-- The private members that a member is declared with. -/
def Member.cacheNames (m : Member) : List Text :=
  match m with
  | .function f => [functionCacheName f.name]
  | m => if m.isTable then [tableCacheName m.name] else []

namespace Cpp

/-! ## §1 Reading the private part -/

/-- The lines of a class between `private:` and its end, moved back to the left margin. -/
def privatePart (block : List Text) : List Text :=
  ((block.dropWhile (· != "private:".toList)).tail.takeWhile (· != r"};".toList)).map (List.drop 4)

/-- The name in the declaration of a variable: what stands between its type and the semicolon. -/
def variableName (l : Text) : Text := (behindFirstWord l).takeWhile (· != ';')

/-- The names of the private members of a class. -/
def privateNames (block : List Text) : List Text := (privatePart block).map variableName

/-- The private part begins behind `private:` and ends in front of the closing brace. -/
theorem privatePart_block {front : List Text} (h : ∀ l ∈ front, (l != "private:".toList) = true)
    (lines rest : List Text) :
    privatePart (front ++ "private:".toList :: (indent lines ++ r"};".toList :: rest)) = lines := by
  have hlines : ∀ l ∈ indent lines, (l != r"};".toList) = true := by
    intro l hl
    obtain ⟨l, -, rfl⟩ := List.mem_map.1 hl
    cases l <;> simp [indentLine]
  rw [privatePart, List.dropWhile_append_of_pos h, List.dropWhile_cons_of_neg (by simp),
    List.tail_cons, List.takeWhile_append_of_pos hlines, List.takeWhile_cons_of_neg (by simp),
    List.append_nil, drop_indent]

/-- A variable is declared by its type and its name. -/
theorem variableName_declaration {type name : Text} (htype : ' ' ∉ type)
    (hname : ∀ c ∈ name, isNamePart c = true) (l : Text) (hl : l = type ++ ' ' :: (name ++ [';'])) :
    variableName l = name := by
  have hsemicolon : ';' ∉ name := by
    intro hmem
    exact absurd (hname _ hmem) (by decide)
  rw [hl, variableName, (firstWord_append htype _).2, Text.takeWhile_append_cons hsemicolon]

/-! ## §2 The private members of a class -/

/-- A function is kept in one private member and a table in another one; values are not kept. -/
theorem mem_cacheNames_iff {m : Member} {name : Text} :
    name ∈ m.cacheNames ↔ (∃ f, m = .function f ∧ name = functionCacheName f.name) ∨
      (m.isTable = true ∧ name = tableCacheName m.name) := by
  cases m with
  | function f => simp [Member.cacheNames, Member.isTable, Member.valueType]
  | global g => cases h : (Member.global g).isTable <;> simp [Member.cacheNames, h]
  | field f => cases h : (Member.field f).isTable <;> simp [Member.cacheNames, h]

/-- No member is kept in two private members of one name. -/
theorem nodup_cacheNames (m : Member) : m.cacheNames.Nodup := by
  unfold Member.cacheNames
  split
  · exact List.nodup_singleton _
  · split
    · exact List.nodup_singleton _
    · exact List.nodup_nil

/-- Private members are named by ASCII letters, digits and underscores if the start of the name is. -/
theorem isNamePart_of_mem_cacheName {start : Text} (hstart : ∀ c ∈ start, isNamePart c = true)
    {luaName : Text} : ∀ c ∈ start ++ sanitize luaName ++ ['_'], isNamePart c = true := by
  intro c hc
  simp only [List.mem_append, List.mem_singleton] at hc
  rcases hc with (hc | hc) | rfl
  · exact hstart c hc
  · exact isNamePart_of_mem_sanitize hc
  · rfl

theorem isNamePart_of_mem_functionCacheName (luaName : Text) :
    ∀ c ∈ functionCacheName luaName, isNamePart c = true := by
  have hstart : "cached_fn_".toList.all isNamePart = true := rfl
  exact isNamePart_of_mem_cacheName (List.all_eq_true.1 hstart)

theorem isNamePart_of_mem_tableCacheName (luaName : Text) :
    ∀ c ∈ tableCacheName luaName, isNamePart c = true := by
  have hstart : "cached_tbl_".toList.all isNamePart = true := rfl
  exact isNamePart_of_mem_cacheName (List.all_eq_true.1 hstart)

/-- The private member for a table is declared as an optional object of the class for the table. -/
theorem words_tableCacheLine {luaName : Text} (hclass : isIdentifier (tableClassName luaName) = true) :
    let l := line ["std::optional<", tableClassName luaName, "> ", tableCacheName luaName, ";"]
    firstWord l = "std::optional<".toList ++ tableClassName luaName ++ ['>'] ∧
      variableName l = tableCacheName luaName := by
  -- The type is one word, since the name of the class is an identifier.
  have htype : ' ' ∉ "std::optional<".toList ++ tableClassName luaName ++ ['>'] := by
    simp [not_mem_of_isIdentifier hclass (c := ' ') (by decide)]
  have hline : line ["std::optional<", tableClassName luaName, "> ", tableCacheName luaName, ";"] =
      ("std::optional<".toList ++ tableClassName luaName ++ ['>']) ++ ' ' :: (tableCacheName luaName ++ [';']) := by
    simp [line]
  refine ⟨?_, variableName_declaration htype (isNamePart_of_mem_tableCacheName luaName) _ hline⟩
  rw [hline]
  exact (firstWord_append htype _).1

/-- The private members of a member are read back. -/
theorem variableName_cacheLines {m : Member} (hnames : ∀ name ∈ m.cppNames, isIdentifier name = true) :
    (cacheLines (.ofMember m)).map variableName = m.cacheNames := by
  rcases m.cases_declared with
    ⟨f, rfl⟩ | ⟨htable, hcpp, -, hmember⟩ | ⟨hvalue, -, -, type, hmember⟩
  · have htype : ' ' ∉ "std::optional<sol::protected_function>".toList := by decide
    rw [Accessor.ofMember, cacheLines, List.map_singleton,
      variableName_declaration htype (isNamePart_of_mem_functionCacheName f.name) _ (by simp [line])]
    rfl
  · have hcache : m.cacheNames = [tableCacheName m.name] := by
      cases m with
      | function f => cases htable
      | global g => simp [Member.cacheNames, htable]
      | field f => simp [Member.cacheNames, htable]
    have hclass := hnames (tableClassName m.name) (by simp [hcpp])
    rw [hmember, HeaderClass.tableAccessor_eq [], cacheLines, List.map_singleton, hcache,
      (words_tableCacheLine hclass).2]
  · -- A plain value is not kept.
    have hcache : m.cacheNames = [] := by
      apply List.eq_nil_iff_forall_not_mem.2
      intro name hname
      rcases mem_cacheNames_iff.1 hname with ⟨f, rfl, -⟩ | ⟨htable, -⟩
      · cases hmember
      · simp [hvalue] at htable
    rw [hmember, cacheLines, hcache, List.map_nil]

namespace HeaderClass

/-- The private declarations are read back. -/
theorem privatePart_lines (c : HeaderClass) : privatePart c.lines = c.privateLines := by
  -- No line in front says `private:`: lines of inner classes are indented, and the others are fixed but for names.
  have hfront : ∀ l ∈ c.front ++ "public:".toList :: indent c.publicLines,
      (l != "private:".toList) = true := by
    intro l hl
    simp only [front, List.cons_append, List.nil_append, List.mem_cons] at hl
    rcases hl with rfl | rfl | rfl | hl
    · cases c <;> simp [docLine, line]
    · simp [headLine, line]
    · decide
    · exact ne_private_of_mem_indent hl
  have hlines : c.lines = (c.front ++ "public:".toList :: indent c.publicLines) ++
      "private:".toList :: (indent c.privateLines ++ r"};".toList :: [[]]) := by
    rw [lines_eq_front, List.append_assoc, List.cons_append]
    rfl
  rw [hlines, privatePart_block hfront]

/-- **The private names of a class**: what its values are read from, and what its members are kept in. -/
theorem privateNames_lines (c : HeaderClass) :
    privateNames c.lines = c.owner.source :: c.declared.flatMap Member.cacheNames := by
  have hhandle : variableName c.handleLine = c.owner.source := by cases c <;> rfl
  have hmembers : (c.accessors.flatMap cacheLines).map variableName =
      c.declared.flatMap Member.cacheNames := by
    rw [accessors, List.flatMap_map, List.map_flatMap]
    apply List.flatMap_congr
    intro m hm
    exact variableName_cacheLines fun _ hname => (name_of_claimed hm hname).1
  rw [privateNames, privatePart_lines, privateLines, List.map_cons, hhandle, hmembers]

/-! ## §3 Names that are shared

Names with capitals are claimed and so distinct. The names of private members lose more than capitals do as soon
as a character is not ASCII.
-/

theorem pascalCase_mem_cppNames (m : Member) : pascalCase m.name ∈ m.cppNames := by
  rcases m.cases_declared with ⟨f, rfl⟩ | ⟨-, hnames, -⟩ | ⟨-, hnames, -⟩
  · exact List.mem_cons_self
  · simp [hnames]
  · simp [hnames]

/-- Whether two members have names in common does not depend on their order. -/
theorem symm_disjoint (names : Member → List Text) :
    Std.Symm fun m e : Member => (names m).Disjoint (names e) :=
  ⟨fun _ _ h => List.disjoint_symm h⟩

theorem pairwise_disjoint_cppNames (c : HeaderClass) :
    c.declared.Pairwise fun m e => m.cppNames.Disjoint e.cppNames :=
  (List.nodup_flatMap.1 (nodup_namesOf_claimed _ _)).2

theorem nodup_declared (c : HeaderClass) : c.declared.Nodup := by
  apply c.pairwise_disjoint_cppNames.imp
  rintro m _ hdisjoint rfl
  exact hdisjoint (pascalCase_mem_cppNames m) (pascalCase_mem_cppNames m)

/-- Members of a class have distinct names with capitals. -/
theorem pascalCase_ne {c : HeaderClass} {m e : Member} (hm : m ∈ c.declared) (he : e ∈ c.declared)
    (hne : m ≠ e) : pascalCase m.name ≠ pascalCase e.name := by
  have := symm_disjoint Member.cppNames
  intro heq
  apply c.pairwise_disjoint_cppNames.forall hm he hne (pascalCase_mem_cppNames m)
  rw [heq]
  exact pascalCase_mem_cppNames e

/-- What the class for a script declares is in its schema. -/
theorem mem_members_of_mem_declared {r : ParseResult} {m : Member}
    (h : m ∈ (script r).declared) : m ∈ r.members := by
  rcases List.mem_append.1 (mem_of_mem_claimed h) with h | h
  · exact List.mem_append_left _ (mem_of_mem_exposed h)
  · exact List.mem_append_right _ (mem_of_mem_exposed h)

theorem isIdentifier_of_mem_declared {c : HeaderClass} {m : Member} (h : m ∈ c.declared) :
    isIdentifier m.name = true := by
  have hexposed : isExposed m = true := by
    have hm := mem_of_mem_claimed h
    cases c with
    | script r =>
      rcases List.mem_append.1 hm with hm | hm
      · exact (isExposed_of_mem_exposed hm).2
      · exact (isExposed_of_mem_exposed hm).2
    | wrapper scope luaName fields => exact (isExposed_of_mem_exposed hm).2
  rw [isExposed, Bool.and_eq_true] at hexposed
  exact hexposed.2

/-- An identifier of ASCII characters is made of ASCII letters, digits and underscores. -/
theorem isNamePart_of_isIdentifier {name : Text} (h : isIdentifier name = true)
    (hascii : ∀ c ∈ name, c.toNat < 0x80) : ∀ c ∈ name, isNamePart c = true := by
  intro c hc
  by_contra hpart
  apply not_mem_of_isIdentifier h (c := c) ?_ hc
  rw [Bool.not_eq_true, isNamePart] at hpart
  simpa [isAlphanumeric, hascii c hc] using hpart

/-- **Where Lua names have one form for private members**: in a class for a table only, and only with a
character outside ASCII in one of them. -/
theorem exists_not_ascii_of_sanitize_eq {source fileName : Text} {c : HeaderClass}
    (hc : c ∈ classes (parse source fileName)) {m e : Member} (hm : m ∈ c.declared)
    (he : e ∈ c.declared) (hne : m ≠ e) (h : sanitize m.name = sanitize e.name) :
    c.owner = .table ∧ ∃ x ∈ m.name ++ e.name, 0x80 ≤ x.toNat := by
  have hpascal := pascalCase_ne hm he hne
  constructor
  · rcases eq_or_mem_tables hc with rfl | ⟨d, hd⟩
    · -- What a source declares at its top level has an ASCII name.
      refine absurd (pascalCase_eq_of_sanitize_eq ?_ ?_ h) hpascal
      · exact isNamePart_of_mem_members (mem_members_of_mem_declared hm)
      · exact isNamePart_of_mem_members (mem_members_of_mem_declared he)
    · obtain ⟨m', -, -, rfl⟩ := mem_tables.1 hd
      rfl
  · by_contra hascii
    push Not at hascii
    refine hpascal (pascalCase_eq_of_sanitize_eq ?_ ?_ h)
    · exact isNamePart_of_isIdentifier (isIdentifier_of_mem_declared hm) fun x hx =>
        hascii x (List.mem_append_left _ hx)
    · exact isNamePart_of_isIdentifier (isIdentifier_of_mem_declared he) fun x hx =>
        hascii x (List.mem_append_right _ hx)

end HeaderClass

/-- Two tables of different names that are kept in private members of one name. -/
structure SharesCache (m e : Member) : Prop where
  left : m.isTable = true
  right : e.isTable = true
  name_ne : m.name ≠ e.name
  sanitize_eq : sanitize m.name = sanitize e.name

theorem sanitize_eq_of_functionCacheName_eq {a b : Text} (h : functionCacheName a = functionCacheName b) :
    sanitize a = sanitize b :=
  List.append_cancel_left (List.append_cancel_right h)

theorem sanitize_eq_of_tableCacheName_eq {a b : Text} (h : tableCacheName a = tableCacheName b) :
    sanitize a = sanitize b :=
  List.append_cancel_left (List.append_cancel_right h)

/-- The names that functions, tables and values are kept under differ in their first characters. -/
theorem functionCacheName_ne_tableCacheName (a b : Text) : functionCacheName a ≠ tableCacheName b := by
  intro h
  have hfunction : (functionCacheName a).take 8 = "cached_f".toList := rfl
  have htable : (tableCacheName b).take 8 = "cached_t".toList := rfl
  rw [h, htable] at hfunction
  exact absurd hfunction (by decide)

theorem source_not_mem_cacheNames (o : Owner) (m : Member) : o.source ∉ m.cacheNames := by
  intro h
  have hsource : o.source.head? ≠ some 'c' := by cases o <;> decide
  rcases mem_cacheNames_iff.1 h with ⟨f, -, h⟩ | ⟨-, h⟩
  · exact hsource (by rw [h]; rfl)
  · exact hsource (by rw [h]; rfl)

/-- Members that are kept under one name are two functions or two tables. -/
theorem sanitize_eq_of_mem_cacheNames {m e : Member} {name : Text} (hm : name ∈ m.cacheNames)
    (he : name ∈ e.cacheNames) : sanitize m.name = sanitize e.name ∧
      ((∃ f, m = .function f) ∨ (m.isTable = true ∧ e.isTable = true)) := by
  rcases mem_cacheNames_iff.1 hm with ⟨f, rfl, hf⟩ | ⟨hm, hf⟩
  · rcases mem_cacheNames_iff.1 he with ⟨g, rfl, hg⟩ | ⟨-, hg⟩
    · exact ⟨sanitize_eq_of_functionCacheName_eq (hf.symm.trans hg), .inl ⟨f, rfl⟩⟩
    · exact absurd (hf.symm.trans hg) (functionCacheName_ne_tableCacheName _ _)
  · rcases mem_cacheNames_iff.1 he with ⟨g, rfl, hg⟩ | ⟨he, hg⟩
    · exact absurd (hg.symm.trans hf) (functionCacheName_ne_tableCacheName _ _)
    · exact ⟨sanitize_eq_of_tableCacheName_eq (hf.symm.trans hg), .inr ⟨hm, he⟩⟩

namespace HeaderClass

/-- The private names of a class are distinct exactly if no two members are kept under one name. -/
theorem nodup_privateNames_iff (c : HeaderClass) : (privateNames c.lines).Nodup ↔
    ∀ m ∈ c.declared, ∀ e ∈ c.declared, m ≠ e → m.cacheNames.Disjoint e.cacheNames := by
  -- The member that the values are read from has a name that no kept member has.
  have hsource : c.owner.source ∉ c.declared.flatMap Member.cacheNames := by
    intro h
    obtain ⟨m, -, h⟩ := List.mem_flatMap.1 h
    exact source_not_mem_cacheNames _ _ h
  have := symm_disjoint Member.cacheNames
  rw [privateNames_lines, List.nodup_cons, List.nodup_flatMap]
  constructor
  · rintro ⟨-, -, hpairs⟩ m hm e he hne
    exact hpairs.forall hm he hne
  · intro hpairs
    exact ⟨hsource, fun m _ => nodup_cacheNames m, c.nodup_declared.pairwise_of_forall_ne hpairs⟩

/-- In a class of a source only tables share what they are kept under. -/
theorem sharesCache_of_mem_cacheNames {source fileName : Text} {c : HeaderClass}
    (hc : c ∈ classes (parse source fileName)) {m e : Member} (hm : m ∈ c.declared)
    (he : e ∈ c.declared) (hne : m ≠ e) {name : Text} (hmname : name ∈ m.cacheNames)
    (hename : name ∈ e.cacheNames) : SharesCache m e := by
  obtain ⟨hsanitize, hkind⟩ := sanitize_eq_of_mem_cacheNames hmname hename
  have howner := (exists_not_ascii_of_sanitize_eq hc hm he hne hsanitize).1
  rcases hkind with ⟨f, rfl⟩ | ⟨hleft, hright⟩
  · -- A class for a table has no functions.
    cases c with
    | script r => cases howner
    | wrapper scope luaName fields =>
      obtain ⟨x, -, hx⟩ := mem_of_mem_tableClaims hm
      cases hx
  · have hname : m.name ≠ e.name := fun h => pascalCase_ne hm he hne (congrArg pascalCase h)
    exact ⟨hleft, hright, hname, hsanitize⟩

end HeaderClass

/-! ## §4 All private names of a class -/

/-- **The private names of a class**, for any source: what its values are read from, and what its functions
and its tables are kept in. They are distinct unless two tables share one; then the class is for a table, and
a character outside ASCII is in the name of one of the two. -/
theorem privateNames_wellFormed {source fileName : Text} {c : HeaderClass}
    (hc : c ∈ classes (parse source fileName)) :
    privateNames c.lines = c.owner.source :: c.declared.flatMap Member.cacheNames ∧
    ((privateNames c.lines).Nodup ↔ ¬∃ m ∈ c.declared, ∃ e ∈ c.declared, SharesCache m e) ∧
    ∀ m ∈ c.declared, ∀ e ∈ c.declared, SharesCache m e →
      c.owner = .table ∧ ∃ x ∈ m.name ++ e.name, 0x80 ≤ x.toNat := by
  have hne : ∀ {m e : Member}, SharesCache m e → m ≠ e := by
    rintro m _ hshares rfl
    exact hshares.name_ne rfl
  refine ⟨c.privateNames_lines, ?_, ?_⟩
  · rw [c.nodup_privateNames_iff]
    constructor
    · -- Two tables that share a name of the first kind share the name of the member that keeps them.
      rintro hdisjoint ⟨m, hm, e, he, hshares⟩
      have hcache : tableCacheName m.name = tableCacheName e.name := by
        unfold tableCacheName
        rw [hshares.sanitize_eq]
      have hleft := mem_cacheNames_iff.2 (.inr ⟨hshares.left, rfl⟩)
      have hright := mem_cacheNames_iff.2 (.inr ⟨hshares.right, hcache⟩)
      exact hdisjoint m hm e he (hne hshares) hleft hright
    · intro hnone m hm e he hne name hmname hename
      exact hnone ⟨m, hm, e, he,
        HeaderClass.sharesCache_of_mem_cacheNames hc hm he hne hmname hename⟩
  · intro m hm e he hshares
    exact HeaderClass.exists_not_ascii_of_sanitize_eq hc hm he (hne hshares) hshares.sanitize_eq

/-- Two functions whose names differ in an underscore only, both of which the class declares. -/
theorem privateNames_functions :
    privateNames (HeaderClass.script (parse "function a_b() end\nfunction ab_() end".toList [])).lines =
        ["lua_".toList, "cached_fn_a_b_".toList, "cached_fn_ab_".toList] ∧
      (privateNames
        (HeaderClass.script (parse "function a_b() end\nfunction ab_() end".toList [])).lines).Nodup := by
  obtain ⟨hnames, hdistinct, hshares⟩ :=
    privateNames_wellFormed (HeaderClass.self_mem_withInner
      (.script (parse "function a_b() end\nfunction ab_() end".toList [])))
  refine ⟨hnames.trans rfl, hdistinct.2 ?_⟩
  rintro ⟨m, hm, e, he, h⟩
  exact absurd (hshares m hm e he h).1 (by decide)

/-- A table with two tables whose names differ in an accent only. -/
def accentedTable : Text := "{ é = {}, è = {} }".toList

/-- A source that assigns it. -/
def accentedSource : Text := "t = ".toList ++ accentedTable

/-- The variable that the source declares. -/
def accented : Global :=
  { name := "t".toList
    valueType := .table
    fields := [{ name := "é".toList, valueType := .table }, { name := "è".toList, valueType := .table }] }

/-- An entry that is an empty table. -/
theorem fieldOf_emptyTable (name : Text) :
    TableLiteral.fieldOf (name, "{}".toList) = { name, valueType := .table } := by
  have htable : inferValueType "{}".toList = .table := by decide
  have hempty : TableLiteral.trimOuterBraces "{}".toList = [] := by decide
  simp only [TableLiteral.fieldOf, htable, hempty, TableLiteral.parseFields_nil, ite_self]

theorem parse_accented : parse accentedSource [] = { fileName := [], globals := [accented] } := by
  have hentries : TableLiteral.keyedEntries (TableLiteral.tableContent accentedTable []) =
      [("é".toList, "{}".toList), ("è".toList, "{}".toList)] := by decide
  have hfields : TableLiteral.parseTable accentedTable [] [] = accented.fields := by
    rw [TableLiteral.parseTable, TableLiteral.parseFields_eq, hentries, List.map_cons, List.map_singleton,
      fieldOf_emptyTable, fieldOf_emptyTable]
    rfl
  -- The source up to the fields of its table, which only the equation above evaluates.
  have hparse : parse accentedSource [] =
      { fileName := []
        globals := [{ accented with fields := TableLiteral.parseTable accentedTable [] [] }] } := rfl
  rw [hparse, hfields]

/-- **Private names are not always distinct**: two tables with other names are kept under one. -/
theorem not_all_private_names_distinct :
    ¬∀ (source fileName : Text) (c : HeaderClass), c ∈ classes (parse source fileName) →
      (privateNames c.lines).Nodup := by
  intro h
  have hmem : .wrapper [] accented.name accented.fields ∈ classes (parse accentedSource []) := by
    rw [parse_accented]
    apply HeaderClass.mem_withInner_of_mem_tables (HeaderClass.self_mem_withInner _)
    apply HeaderClass.mem_tables.2
    exact ⟨.global accented, List.mem_singleton_self _, rfl, rfl⟩
  have hdistinct := h _ _ _ hmem
  rw [HeaderClass.privateNames_lines] at hdistinct
  exact absurd hdistinct (by decide)

end Cpp

end LuaAccessors
