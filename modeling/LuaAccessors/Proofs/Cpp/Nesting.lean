import LuaAccessors.Proofs.Cpp.Accessors
import LuaAccessors.Proofs.Cpp.Braces

/-!
# The nesting of classes

The lines of a header that open a class and those that close one form one tree, which is the tree of the
tables that are declared: the class for the script at its root, and inside a class the classes for its tables,
in the order of their claims. In each class the class for a table stands in front of the accessor that returns
it, and what the accessor keeps it in is declared in the private part.

- `ClassMark`, `classMarks`: the lines that open and close classes, as they are read;
- `ClassTree`, `ClassTree.marks`: trees of classes, and what is read of a tree;
- `HeaderClass.tree`, `HeaderClass.classMarks_lines`: the tree of a class, and that it is read back;
- `header_nesting`: the structure of a header.
-/

namespace LuaAccessors.Cpp

open Lexis

/-! ## §1 Lines that open and close classes -/

/-- A line that opens or closes a class, with the number of spaces in front of it. -/
inductive ClassMark where
  /-- `class X {` opens the class `X`. -/
  | opens (column : Nat) (name : Text)
  /-- `};` closes a class. -/
  | closes (column : Nat)
  deriving Repr, DecidableEq

/-- The same one level to the right. -/
def ClassMark.indented : ClassMark → ClassMark
  | opens column name => opens (column + 4) name
  | closes column => closes (column + 4)

/-- The line opens a class. -/
def ClassMark.isOpening : ClassMark → Bool
  | opens _ _ => true
  | closes _ => false

/-- What a line opens or closes. -/
def classMark? (l : Text) : Option ClassMark :=
  let column := (l.takeWhile (· == ' ')).length
  let code := l.dropWhile (· == ' ')
  if code = r"};".toList then some (.closes column)
  else if firstWord code = "class".toList ∧ code.getLast? = some '{' then
    some (.opens column (behindFirstWord code).dropLast.dropLast)
  else none

/-- What lines open and close. -/
def classMarks (lines : List Text) : List ClassMark := lines.filterMap classMark?

@[simp] theorem classMarks_nil : classMarks [] = [] := rfl

theorem classMarks_cons (l : Text) (lines : List Text) :
    classMarks (l :: lines) = (classMark? l).toList ++ classMarks lines := by
  cases h : classMark? l <;> simp [classMarks, h]

theorem classMarks_append (xs ys : List Text) :
    classMarks (xs ++ ys) = classMarks xs ++ classMarks ys :=
  List.filterMap_append

theorem classMarks_flatMap {α : Type} (xs : List α) (f : α → List Text) :
    classMarks (xs.flatMap f) = xs.flatMap fun x => classMarks (f x) := List.filterMap_flatMap

theorem classMark?_indentLine (l : Text) :
    classMark? (indentLine l) = (classMark? l).map ClassMark.indented := by
  cases l with
  | nil => rfl
  | cons c l =>
    have hspaces : indentLine (c :: l) = ' ' :: ' ' :: ' ' :: ' ' :: c :: l := rfl
    -- Only the number of spaces in front changes, not the code behind them.
    have htake : ((indentLine (c :: l)).takeWhile (· == ' ')).length =
        ((c :: l).takeWhile (· == ' ')).length + 4 := by
      rw [hspaces]
      rfl
    have hdrop : (indentLine (c :: l)).dropWhile (· == ' ') = (c :: l).dropWhile (· == ' ') := rfl
    unfold classMark?
    dsimp only
    rw [htake, hdrop]
    split
    · rfl
    · split <;> rfl

/-- Moving lines to the right moves what they open and close. -/
theorem classMarks_indent (lines : List Text) :
    classMarks (indent lines) = (classMarks lines).map ClassMark.indented := by
  rw [classMarks, indent, List.filterMap_map, classMarks, List.map_filterMap]
  apply List.filterMap_congr
  exact fun l _ => classMark?_indentLine l

/-- A line that starts with another word than `class` opens and closes nothing. -/
theorem classMark?_word {word : Text} (hspace : ' ' ∉ word) (hne : word ≠ [])
    (hclass : word ≠ "class".toList) (more : Text) : classMark? (word ++ ' ' :: more) = none := by
  obtain ⟨c, rest, rfl⟩ := List.exists_cons_of_ne_nil hne
  have hc : (c == ' ') = false := by
    rw [beq_eq_false_iff_ne]
    rintro rfl
    exact hspace List.mem_cons_self
  have hdrop : (c :: rest ++ ' ' :: more).dropWhile (· == ' ') = c :: rest ++ ' ' :: more :=
    List.dropWhile_cons_of_neg (by simp [hc])
  -- The line has a space in it, and the line that closes a class has none.
  have hclosing : c :: rest ++ ' ' :: more ≠ r"};".toList := by
    intro h
    have hmem : ' ' ∈ r"};".toList := h ▸ by simp
    exact absurd hmem (by decide)
  unfold classMark?
  dsimp only
  rw [hdrop, if_neg hclosing, (firstWord_append hspace more).1, if_neg fun h => hclass h.1]

/-! ## §2 Members open no classes -/

theorem typeText_ne (type : CppType) : type.text ≠ [] ∧ type.text ≠ "class".toList := by
  cases type <;> decide

theorem classMarks_methodLines (f : Function) : classMarks (methodLines f) = [] := by
  have hdeclaration : ∀ more : List Text, classMark? (line ((CppType.ofResult f.returnType).text ::
      " ".toList :: more)) = none := by
    intro more
    obtain ⟨hne, hclass⟩ := typeText_ne (.ofResult f.returnType)
    exact classMark?_word (type_word _).1 hne hclass more.flatten
  have hreturn : classMarks (if CppType.ofResult f.returnType = .void then []
      else [line ["    return result.get<", (CppType.ofResult f.returnType).text, ">();"]]) = [] := by
    split <;> rfl
  unfold methodLines
  rw [classMarks_append, classMarks_append, hreturn]
  simp only [classMarks_cons, hdeclaration]
  -- The first word of every other line is known.
  unfold functionCacheName
  repeat rewrite [String.toList_ofList]
  rfl

theorem classMarks_propertyLines (o : Owner) (luaName : Text) (type : CppType) :
    classMarks (propertyLines o luaName type) = [] := by
  have hdeclaration : ∀ more : List Text, classMark? (line (type.text :: " ".toList :: more)) = none := by
    intro more
    obtain ⟨hne, hclass⟩ := typeText_ne type
    exact classMark?_word (type_word _).1 hne hclass more.flatten
  unfold propertyLines
  simp only [classMarks_cons, hdeclaration]
  repeat rewrite [String.toList_ofList]
  rfl

theorem classMarks_tableLines (o : Owner) {luaName : Text}
    (hclass : isIdentifier (tableClassName luaName) = true) : classMarks (tableLines o luaName) = [] := by
  have hdeclaration : ∀ more : List Text,
      classMark? (line (tableClassName luaName :: "& ".toList :: more)) = none := by
    intro more
    obtain ⟨hspace, hno⟩ := tableClass_word hclass
    have hword : tableClassName luaName ++ ['&'] ≠ "class".toList := by
      intro h
      exact hno (h ▸ by decide)
    have hmark := classMark?_word hspace (by simp) hword more.flatten
    simpa [line] using hmark
  unfold tableLines
  simp only [classMarks_cons, hdeclaration]
  unfold tableCacheName
  repeat rewrite [String.toList_ofList]
  rfl

/-! ## §3 Trees of classes

The marks of a tree are its root, then its branches one level deeper, then the end of the root. Moving all of
them to the right is the same as starting one level deeper.
-/

/-- A class with the classes inside it. -/
inductive ClassTree where
  | node (name : Text) (inner : List ClassTree)
  deriving Repr

mutual

/-- The lines that open and close the classes of a tree at some level, four spaces for each. -/
def ClassTree.marks (level : Nat) : ClassTree → List ClassMark
  | .node name inner =>
    .opens (4 * level) name :: (innerMarks (level + 1) inner ++ [.closes (4 * level)])

/-- The same for several trees, one after the other. -/
def innerMarks (level : Nat) : List ClassTree → List ClassMark
  | [] => []
  | t :: rest => t.marks level ++ innerMarks level rest

end

mutual

/-- A tree one level deeper is the tree moved to the right. -/
theorem ClassTree.marks_succ (level : Nat) :
    ∀ t : ClassTree, t.marks (level + 1) = (t.marks level).map ClassMark.indented
  | .node name inner => by
    have hinner := innerMarks_succ (level + 1) inner
    simp only [ClassTree.marks, hinner, List.map_cons, List.map_append, List.map_nil,
      ClassMark.indented, Nat.mul_add]

theorem innerMarks_succ (level : Nat) :
    ∀ ts : List ClassTree, innerMarks (level + 1) ts = (innerMarks level ts).map ClassMark.indented
  | [] => rfl
  | t :: rest => by
    rw [innerMarks, innerMarks, t.marks_succ level, innerMarks_succ level rest, List.map_append]

end

namespace HeaderClass

/-- The class with the classes inside it, in the order of their tables. -/
def tree (c : HeaderClass) : ClassTree := .node c.ownName (c.tables.attach.map fun ⟨d, _⟩ => d.tree)
termination_by c.weight
decreasing_by exact weight_lt ‹_›

theorem tree_eq (c : HeaderClass) : c.tree = .node c.ownName (c.tables.map tree) := by
  rw [tree]
  exact congrArg (ClassTree.node c.ownName) List.attach_map_val

variable {c : HeaderClass}

theorem classMarks_accessorLines {m : Member} (hm : m ∈ c.declared) :
    classMarks (accessorLines c.owner (.ofMember m)) = [] := by
  rcases m.cases_declared with ⟨f, rfl⟩ | ⟨htable, -, -, hmember⟩ | ⟨-, -, -, type, hmember⟩
  · exact classMarks_methodLines f
  · rw [hmember, tableAccessor_eq []]
    exact classMarks_tableLines c.owner (name_of_claimed hm (Member.tableClassName_mem htable)).1
  · rw [hmember]
    exact classMarks_propertyLines c.owner m.name type

theorem classMarks_cacheLines {m : Member} (hm : m ∈ c.declared) :
    classMarks (cacheLines (.ofMember m)) = [] := by
  rcases m.cases_declared with ⟨f, rfl⟩ | ⟨htable, -, -, hmember⟩ | ⟨-, -, -, type, hmember⟩
  · rfl
  · have hclass := (name_of_claimed hm (Member.tableClassName_mem htable)).1
    have hspace : ' ' ∉ "std::optional<".toList ++ tableClassName m.name ++ ['>'] := by
      simp [not_mem_of_isIdentifier hclass (c := ' ') (by decide)]
    have hword : "std::optional<".toList ++ tableClassName m.name ++ ['>'] ≠ "class".toList := by
      intro h
      exact absurd (congrArg List.head? h) (by simp)
    have hline := classMark?_word hspace (by simp) hword (tableCacheName m.name ++ [';'])
    rw [hmember, tableAccessor_eq [], cacheLines, classMarks_cons]
    simpa [line] using hline
  · rw [hmember]
    rfl

theorem classMarks_constructorLines (c : HeaderClass) : classMarks c.constructorLines = [] := by
  cases c <;> rfl

theorem classMarks_builtInLines (c : HeaderClass) : classMarks c.builtInLines = [] := by
  cases c <;> rfl

/-- A class is opened at the left margin. -/
theorem classMarks_front (c : HeaderClass) :
    classMarks [c.docLine, c.headLine, "public:"] = [.opens 0 c.ownName] := by
  have hdoc : classMark? c.docLine = none := by
    cases c <;> rfl
  have hhead : classMark? c.headLine = some (.opens 0 c.ownName) := by
    obtain ⟨hfirst, hrest⟩ := c.words_headLine
    have hline : c.headLine = 'c' :: ("lass ".toList ++ c.ownName ++ [' ']) ++ ['{'] := by
      simp [headLine, line]
    have htake : c.headLine.takeWhile (· == ' ') = [] := by rw [hline]; rfl
    have hdrop : c.headLine.dropWhile (· == ' ') = c.headLine := by rw [hline]; rfl
    have hlast : c.headLine.getLast? = some '{' := by rw [hline, List.getLast?_concat]
    have hclosing : c.headLine ≠ r"};".toList := by rw [hline]; simp
    -- The head starts with the keyword and ends with a brace, and the name is the word in between.
    unfold classMark?
    dsimp only
    rw [htake, hdrop, if_neg hclosing, if_pos ⟨hfirst, hlast⟩, hrest]
    simp
  rw [classMarks_cons, classMarks_cons, hdoc, hhead]
  rfl

/-- **The classes that a class opens and closes** are those of its tree. -/
theorem classMarks_lines (c : HeaderClass) : classMarks c.lines = c.tree.marks 0 := by
  induction c using HeaderClass.induction with
  | step c ih =>
    -- What is written for a member, as an accessor or as something kept, opens and closes nothing.
    have hmembers : ∀ f : Accessor → List Text,
        (∀ m ∈ c.declared, classMarks (f (.ofMember m)) = []) →
          classMarks (c.accessors.flatMap f) = [] := by
      intro f hf
      rw [accessors, List.flatMap_map, classMarks_flatMap]
      exact List.flatMap_eq_nil_iff.2 hf
    -- The classes for the tables are read back by induction.
    have hinner : classMarks (c.tables.flatMap lines) = innerMarks 0 (c.tables.map tree) := by
      rw [classMarks_flatMap]
      clear hmembers
      generalize c.tables = tables at ih
      induction tables with
      | nil => rfl
      | cons d rest ih' =>
        rw [List.flatMap_cons, List.map_cons, innerMarks, ih d List.mem_cons_self,
          ih' fun e he => ih e (List.mem_cons_of_mem _ he)]
    have hpublic : classMarks c.publicLines = innerMarks 0 (c.tables.map tree) := by
      rw [publicLines, classMarks_append, classMarks_append, classMarks_append, hinner,
        classMarks_constructorLines, classMarks_builtInLines,
        hmembers _ fun m => classMarks_accessorLines]
      simp only [List.append_nil]
    have hprivate : classMarks c.privateLines = [] := by
      have hhandle : classMark? c.handleLine = none := by cases c <;> rfl
      rw [privateLines, classMarks_cons, hhandle, hmembers _ fun m => classMarks_cacheLines]
      rfl
    have hmiddle : classMarks (["private:"] : List Text) = [] := rfl
    have hbehind : classMarks ([r"};", ""] : List Text) = [.closes 0] := rfl
    -- The class itself is opened in front of its public part and closed behind its private one.
    rw [lines_eq, classMarks_append, classMarks_append, classMarks_append, classMarks_append,
      classMarks_front, classMarks_indent, classMarks_indent, hpublic, hprivate, hmiddle, hbehind,
      tree_eq, ClassTree.marks, innerMarks_succ]
    simp

/-- The lines that open the classes of a tree are in pre-order, and each stands at its own depth. -/
theorem opening_marks (c : HeaderClass) :
    (c.tree.marks c.path.length).filter ClassMark.isOpening =
      c.withInner.map fun d => .opens (4 * d.path.length) d.ownName := by
  induction c using HeaderClass.induction with
  | step c ih =>
    have hinner : (innerMarks (c.path.length + 1) (c.tables.map tree)).filter ClassMark.isOpening =
        c.tables.flatMap fun d => d.withInner.map fun e => .opens (4 * e.path.length) e.ownName := by
      -- A class inside stands one level deeper, which is what its path counts.
      have hpath : ∀ d ∈ c.tables, d.path.length = c.path.length + 1 := by
        intro d hd
        obtain ⟨m, -, -, rfl⟩ := mem_tables.1 hd
        simp [path]
      generalize c.tables = tables at ih hpath
      induction tables with
      | nil => rfl
      | cons d rest ih' =>
        have hd := ih d List.mem_cons_self
        rw [hpath d List.mem_cons_self] at hd
        rw [List.map_cons, innerMarks, List.filter_append, hd, List.flatMap_cons,
          ih' (fun e he => ih e (List.mem_cons_of_mem _ he))
            fun e he => hpath e (List.mem_cons_of_mem _ he)]
    rw [tree_eq, ClassTree.marks, withInner_eq, List.map_cons, List.map_flatMap,
      List.filter_cons_of_pos rfl, List.filter_append, hinner]
    simp [ClassMark.isOpening]

end HeaderClass

/-! ## §4 The structure of a header -/

theorem classMarks_headerLines (ns : Text) (r : ParseResult) :
    classMarks (headerLines ns (.ofResult r)) = (HeaderClass.script r).tree.marks 0 := by
  have hpreamble : classMarks (preamble (ScriptClass.ofResult r).stem) = [] := rfl
  have hopening : classMarks [line ["namespace ", ns, r" {"], ""] = [] := rfl
  have hclosing : classMarks [line [r"}  // namespace ", ns], ""] = [] := rfl
  have hclass : classMarks (scriptClassLines (.ofResult r)) = (HeaderClass.script r).tree.marks 0 :=
    (HeaderClass.script r).classMarks_lines
  rw [headerLines, classMarks_append, classMarks_append, classMarks_append, hpreamble, hopening,
    hclosing, hclass, List.append_nil, List.append_nil, List.nil_append]

/-- A text in which the depth of braces is counted from nothing to nothing. -/
theorem count_brace_of_depthInside {t : Text} (h : depthInside? 0 t = some 0) :
    t.count '{' = t.count '}' ∧
      ∀ front, front <+: t → front.count '}' ≤ front.count '{' := by
  constructor
  · simpa using count_of_depthInside h
  · rintro front ⟨rest, rfl⟩
    rw [depthInside?_append] at h
    obtain ⟨depth, hfront, -⟩ := Option.bind_eq_some_iff.1 h
    have := count_of_depthInside hfront
    omega

/-- **The structure of a header**, as long as the name of the script, the namespace and the parameters hold
no brace and no line end. Its braces balance. The lines that open and close classes are those of the tree of
the declared tables; outer classes are opened before inner ones, and each level stands four spaces further to
the right. Every class stands in the header as a whole. Its accessors of tables are those of the tables that it
declares, each behind the class that it returns, and the member that its body works on is declared in the private
part as an object of this class. -/
theorem header_nesting {r : ParseResult} {ns : Text} (hfile : IsPlainText r.fileName)
    (hns : IsPlainText ns) (hparameters : ∀ f ∈ r.functions, ∀ p ∈ f.parameters, IsPlainText p.name) :
    let text := header ns (.ofResult r)
    let marks := classMarks (Text.splitOn '\n' text)
    (text.count '{' = text.count '}' ∧
      ∀ front, front <+: text → front.count '}' ≤ front.count '{') ∧
    (marks = (HeaderClass.script r).tree.marks 0 ∧
      marks.filter ClassMark.isOpening =
        (classes r).map fun c => .opens (4 * c.path.length) c.ownName) ∧
    ∀ c ∈ classes r, (indent^[c.path.length]) c.lines <:+: Text.splitOn '\n' text ∧
      ((tableAccessors (publicPart c.lines)).map fun a => (a.typeName, a.name)) =
        (c.declared.filter Member.isTable).map (fun m => (tableClassName m.name, pascalCase m.name)) ∧
      (∀ a ∈ tableAccessors (publicPart c.lines), a.IsKept c.lines) ∧
      ∀ m ∈ c.declared, m.isTable = true → c.DeclaresTable m := by
  have hbalanced := balanced_headerLines (r := r) ⟨hfile, hparameters⟩ hns
  -- No line holds a line end, so cutting the text gives back the lines that it was joined from.
  have hlines : Text.splitOn '\n' (header ns (.ofResult r)) = headerLines ns (.ofResult r) := by
    rw [header_eq]
    exact splitOn_join (by simp [headerLines, preamble]) hbalanced.unbroken
  have hmarks := classMarks_headerLines ns r
  intro text marks
  refine ⟨?_, ⟨?_, ?_⟩, ?_⟩
  · apply count_brace_of_depthInside
    rw [show text = Text.join ['\n'] (headerLines ns (.ofResult r)) from rfl, depthInside?_join]
    exact hbalanced.depth_eq 0
  · rw [← hmarks, ← hlines]
  · have hopening := (HeaderClass.script r).opening_marks
    rw [show marks = (HeaderClass.script r).tree.marks 0 by rw [← hmarks, ← hlines]]
    exact hopening
  · intro c hc
    refine ⟨?_, ?_, fun a => HeaderClass.isKept_of_mem_tableAccessors, fun m => HeaderClass.declaresTable⟩
    · -- The class stands between the lines of the namespace, moved to the right once for each class around it.
      rw [show Text.splitOn '\n' text = headerLines ns (.ofResult r) from hlines]
      refine (class_within_header hc).trans ?_
      exact ⟨_, _, rfl⟩
    · rw [HeaderClass.publicPart_lines, HeaderClass.tableAccessors_publicLines, List.map_map]
      rfl

/-- A field that is a table with a field. -/
def position : Field :=
  { name := "pos", valueType := .table, fields := [{ name := "x", valueType := .number }] }

/-- A script with a function and a table in a table. -/
def nestedScript : ParseResult :=
  { fileName := "game"
    functions := [{ name := "heal", parameters := [{ name := "amount" }] }]
    globals := [{ name := "player", valueType := .table, fields := [position] }] }

/-- The names that `nestedScript` takes over are plain, and its header has a class in a class in a class. -/
theorem header_nesting_nestedScript :
    IsPlainText nestedScript.fileName ∧ IsPlainText "Lua".toList ∧
      (∀ f ∈ nestedScript.functions, ∀ p ∈ f.parameters, IsPlainText p.name) ∧
      classMarks (Text.splitOn '\n' (header "Lua".toList (.ofResult nestedScript))) =
        [.opens 0 "GameScript".toList, .opens 4 "PlayerTable".toList, .opens 8 "PosTable".toList,
          .closes 8, .closes 4, .closes 0] := by
  have hfile : IsPlainText nestedScript.fileName := isPlainText_of_all rfl
  have hns : IsPlainText "Lua".toList := isPlainText_of_all rfl
  have hparameters : ∀ f ∈ nestedScript.functions, ∀ p ∈ f.parameters, IsPlainText p.name := by
    intro f hf p hp
    obtain rfl := List.mem_singleton.1 hf
    obtain rfl := List.mem_singleton.1 hp
    exact isPlainText_of_all rfl
  refine ⟨hfile, hns, hparameters, ?_⟩
  have houter : (HeaderClass.script nestedScript).tables = [.wrapper [] "player".toList [position]] := rfl
  have hmiddle : (HeaderClass.wrapper [] "player".toList [position]).tables =
      [.wrapper ["player".toList] "pos".toList position.fields] := rfl
  have hinner : (HeaderClass.wrapper ["player".toList] "pos".toList position.fields).tables = [] := rfl
  obtain ⟨-, ⟨hmarks, -⟩, -⟩ := header_nesting hfile hns hparameters
  rw [hmarks, HeaderClass.tree_eq, houter, List.map_singleton, HeaderClass.tree_eq, hmiddle,
    List.map_singleton, HeaderClass.tree_eq, hinner]
  rfl

end LuaAccessors.Cpp
