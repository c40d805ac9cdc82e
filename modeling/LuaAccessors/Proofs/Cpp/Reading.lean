import LuaAccessors.Proofs.Cpp.Classes
import LuaAccessors.Proofs.Text.Cut

/-!
# Reading a class

Which names a class declares can be read off its lines without a word about how they were written: at the
left margin of its public part every line that starts with `class` opens an inner class, and every other
line with a word, a space and a name in front of a parenthesis declares a method.

- `head?`, `heads`: the classes that lines open and the methods that they declare;
- `publicPart`: the lines between `public:` and `private:`, moved back to the left margin;
- `innerNames`, `methodNames`, `publicNames`: the names that the lines of a class declare;
- `heads_publicLines`: what is read off the public part of a class of a header.
-/

namespace LuaAccessors.Cpp

/-! ## §1 Lines -/

/-- What stands in front of the first space. -/
def firstWord (l : Text) : Text := l.takeWhile (· != ' ')

/-- What stands behind the first space. -/
def behindFirstWord (l : Text) : Text := (l.dropWhile (· != ' ')).tail

/-- What a line declares. -/
inductive Head where
  /-- A class, which the line opens. -/
  | opens (name : Text)
  /-- A method. -/
  | method (name : Text)
  deriving Repr, DecidableEq

namespace Head

/-- The declared name. -/
def name : Head → Text
  | opens name => name
  | method name => name

/-- The class that is opened. -/
def class? : Head → Option Text
  | opens name => some name
  | method _ => none

/-- The method that is declared. -/
def method? : Head → Option Text
  | opens _ => none
  | method name => some name

end Head

/-- First words of lines that declare no method: a class, none at all, a comment, a constructor. -/
def noTypes : List Text := ["class", "", "///", "explicit"]

/-- What a line declares: behind `class` a class, up to the brace at the end; behind a type a method, up to
the parenthesis. -/
def head? (l : Text) : Option Head :=
  if firstWord l = "class".toList then some (.opens (behindFirstWord l).dropLast.dropLast)
  else if firstWord l ∈ noTypes ∨ behindFirstWord l = [] then none
  else some (.method ((behindFirstWord l).takeWhile (· != '(')))

/-- What lines declare. -/
def heads (lines : List Text) : List Head := lines.filterMap head?

/-! ## §2 Classes as lines -/

/-- The lines of a class between `public:` and `private:`, moved back to the left margin. -/
def publicPart (block : List Text) : List Text :=
  ((block.dropWhile (· != "public:".toList)).tail.takeWhile (· != "private:".toList)).map (List.drop 4)

/-- The lines of a class in front of `public:`. -/
def openingPart (block : List Text) : List Text := block.takeWhile (· != "public:".toList)

/-- The classes that are opened in the public part. -/
def innerNames (block : List Text) : List Text := (heads (publicPart block)).filterMap Head.class?

/-- The methods that are declared in the public part. -/
def methodNames (block : List Text) : List Text := (heads (publicPart block)).filterMap Head.method?

/-- All names that a class declares publicly: its own, and those of the public part. -/
def publicNames (block : List Text) : List Text :=
  (heads (openingPart block ++ publicPart block)).map Head.name

/-- Lines that have been moved to the right are moved back. -/
theorem drop_indent (lines : List Text) : (indent lines).map (List.drop 4) = lines := by
  rw [indent, List.map_map]
  nth_rewrite 2 [← List.map_id lines]
  apply List.map_congr_left
  intro l _
  cases l <;> simp [indentLine]

/-- Lines that have been moved to the right do not end the public part. -/
theorem ne_private_of_mem_indent {lines : List Text} {l : Text} (h : l ∈ indent lines) :
    (l != "private:".toList) = true := by
  obtain ⟨l, -, rfl⟩ := List.mem_map.1 h
  cases l <;> simp [indentLine]

/-- The public part begins behind `public:` and ends in front of `private:`. -/
theorem publicPart_block {front : List Text} (h : ∀ l ∈ front, (l != "public:".toList) = true)
    (lines rest : List Text) :
    publicPart (front ++ "public:".toList :: (indent lines ++ "private:".toList :: rest)) =
      lines := by
  rw [publicPart, List.dropWhile_append_of_pos h, List.dropWhile_cons_of_neg (by simp),
    List.tail_cons, List.takeWhile_append_of_pos fun _ => ne_private_of_mem_indent,
    List.takeWhile_cons_of_neg (by simp), List.append_nil, drop_indent]

theorem openingPart_block {front : List Text} (h : ∀ l ∈ front, (l != "public:".toList) = true)
    (rest : List Text) : openingPart (front ++ "public:".toList :: rest) = front := by
  rw [openingPart, List.takeWhile_append_of_pos h, List.takeWhile_cons_of_neg (by simp),
    List.append_nil]

/-! ## §3 Names that are read back

A line starts with a word that says what it is: a type in front of a method, `class` in front of a class. What
is read back is what stands between that word and a delimiter that no name holds.
-/

/-- A line is cut at its first space. -/
theorem firstWord_append {word : Text} (h : ' ' ∉ word) (rest : Text) :
    firstWord (word ++ ' ' :: rest) = word ∧ behindFirstWord (word ++ ' ' :: rest) = rest := by
  constructor
  · exact Text.takeWhile_append_cons h rest
  · rw [behindFirstWord, Text.dropWhile_append_cons h, List.tail_cons]

/-- Identifiers hold no other characters than letters, digits and underscores. -/
theorem not_mem_of_isIdentifier {name : Text} (h : isIdentifier name = true) {c : Char}
    (hc : (isAlphanumeric c || c == '_') = false) : c ∉ name := by
  intro hmem
  cases name with
  | nil => cases hmem
  | cons first rest =>
    simp only [isIdentifier, Bool.and_eq_true] at h
    have := List.all_eq_true.1 h.2 c hmem
    simp [hc] at this

/-- Types are single words that stand in front of methods only. -/
theorem type_word (type : CppType) : ' ' ∉ type.text ∧ type.text ∉ noTypes := by
  cases type <;> decide

/-- The class for a table stands in front of its accessor as a reference. -/
theorem tableClass_word {name : Text} (h : isIdentifier (tableClassName name) = true) :
    ' ' ∉ tableClassName name ++ ['&'] ∧ tableClassName name ++ ['&'] ∉ noTypes := by
  have hspace : ' ' ∉ tableClassName name := not_mem_of_isIdentifier h (by decide)
  constructor
  · simpa using hspace
  · intro hmem
    have hlast : ∀ word ∈ noTypes, word.getLast? ≠ some '&' := by decide
    exact hlast _ hmem (by simp)

/-- A method is declared by its type, its name and its arguments. -/
theorem head?_declaration {type name : Text} (htype : ' ' ∉ type ∧ type ∉ noTypes)
    (hname : isIdentifier name = true) (more : Text) :
    head? (type ++ ' ' :: (name ++ '(' :: more)) = some (.method name) := by
  obtain ⟨hfirst, hrest⟩ := firstWord_append htype.1 (name ++ '(' :: more)
  have hclass : type ≠ "class".toList := by
    rintro rfl
    exact htype.2 (by decide)
  have hparenthesis : '(' ∉ name := not_mem_of_isIdentifier hname (by decide)
  rw [head?, hfirst, hrest, if_neg hclass, if_neg (by simp [htype.2]),
    Text.takeWhile_append_cons hparenthesis]

/-- A setter has no result. -/
theorem head?_setter {name : Text} (hname : isIdentifier name = true) (more : Text) :
    head? ('v' :: 'o' :: 'i' :: 'd' :: ' ' :: (name ++ '(' :: more)) = some (.method name) := by
  have hvoid : ' ' ∉ "void".toList ∧ "void".toList ∉ noTypes := by decide
  simpa using head?_declaration hvoid hname more

/-- The lines of a body declare nothing. -/
theorem head?_space (l : Text) : head? (' ' :: l) = none := by
  simp [head?, firstWord, noTypes]

theorem head?_comment (l : Text) : head? ('/' :: '/' :: '/' :: ' ' :: l) = none := by
  simp [head?, firstWord, noTypes]

theorem head?_brace : head? ['}'] = none := by decide

theorem head?_nil : head? [] = none := by decide

theorem heads_cons_none {l : Text} (h : head? l = none) (lines : List Text) :
    heads (l :: lines) = heads lines := List.filterMap_cons_none h

theorem heads_append (xs ys : List Text) : heads (xs ++ ys) = heads xs ++ heads ys :=
  List.filterMap_append

theorem heads_flatMap {α : Type} (xs : List α) (f : α → List Text) :
    heads (xs.flatMap f) = xs.flatMap fun x => heads (f x) := List.filterMap_flatMap

/-- Lines that have been moved to the right declare nothing. -/
theorem heads_indent (lines : List Text) : heads (indent lines) = [] := by
  apply List.filterMap_eq_nil_iff.2
  intro l hl
  obtain ⟨l, -, rfl⟩ := List.mem_map.1 hl
  cases l <;> simp [indentLine, head?_space, head?_nil]

/-! ## §4 Members -/

theorem heads_methodLines {f : Function} (hname : isIdentifier (pascalCase f.name) = true) :
    heads (methodLines f) = [.method (pascalCase f.name)] := by
  have hdeclaration := head?_declaration (type_word (.ofResult f.returnType)) hname
  unfold methodLines heads
  simp [line, head?_comment, head?_space, head?_brace, head?_nil, hdeclaration]

theorem heads_propertyLines {o : Owner} {luaName : Text} {type : CppType}
    (hgetter : isIdentifier (pascalCase luaName) = true)
    (hsetter : isIdentifier (setterName luaName) = true) :
    heads (propertyLines o luaName type) =
      [.method (pascalCase luaName), .method (setterName luaName)] := by
  have hget := head?_declaration (type_word type) hgetter
  have hset := head?_setter hsetter
  unfold propertyLines heads
  simp [line, head?_comment, head?_nil, hget, hset]

theorem heads_tableLines {o : Owner} {luaName : Text}
    (haccessor : isIdentifier (pascalCase luaName) = true)
    (hclass : isIdentifier (tableClassName luaName) = true) :
    heads (tableLines o luaName) = [.method (pascalCase luaName)] := by
  have hdeclaration := head?_declaration (tableClass_word hclass) haccessor
  simp only [List.append_assoc, List.cons_append, List.nil_append] at hdeclaration
  unfold tableLines heads
  simp [line, head?_comment, head?_space, head?_brace, head?_nil, hdeclaration]

/-- A member is declared with its methods. -/
theorem heads_accessorLines (o : Owner) {m : Member}
    (hnames : ∀ name ∈ m.cppNames, isIdentifier name = true) :
    heads (accessorLines o (.ofMember m)) = m.methodNames.map .method := by
  rcases m.cases_declared with
    ⟨f, rfl⟩ | ⟨-, hcpp, hmethods, hmember⟩ | ⟨-, hcpp, hmethods, type, hmember⟩
  · exact heads_methodLines (hnames _ List.mem_cons_self)
  · rw [hcpp] at hnames
    rw [hmember, HeaderClass.tableAccessor_eq [], hmethods]
    exact heads_tableLines (hnames _ (by simp)) (hnames _ (by simp))
  · rw [hcpp] at hnames
    rw [hmember, hmethods]
    exact heads_propertyLines (hnames _ (by simp)) (hnames _ (by simp))

/-! ## §5 The classes of a header -/

namespace HeaderClass

/-- What stands in front of the public part. -/
def front (c : HeaderClass) : List Text := [c.docLine, c.headLine]

theorem ne_public_of_mem_front {c : HeaderClass} {l : Text} (h : l ∈ c.front) :
    (l != "public:".toList) = true := by
  simp only [front, List.mem_cons, List.not_mem_nil, or_false] at h
  rcases h with rfl | rfl
  · cases c <;> simp [docLine, line]
  · simp [headLine, line]

/-- The words of the line that opens a class. -/
theorem words_headLine (c : HeaderClass) :
    firstWord c.headLine = "class".toList ∧
      behindFirstWord c.headLine = c.ownName ++ r" {".toList := by
  have hspace : ' ' ∉ "class".toList := by decide
  have hline : c.headLine = "class".toList ++ ' ' :: (c.ownName ++ r" {".toList) := by
    simp [headLine, line]
  rw [hline]
  exact firstWord_append hspace _

/-- The head of a class opens it. -/
theorem head?_headLine (c : HeaderClass) : head? c.headLine = some (.opens c.ownName) := by
  obtain ⟨hfirst, hrest⟩ := c.words_headLine
  rw [head?, if_pos hfirst, hrest]
  simp

theorem heads_front (c : HeaderClass) : heads c.front = [.opens c.ownName] := by
  have hdoc : head? c.docLine = none := by
    cases c <;> simp [docLine, line, head?_comment]
  rw [front, heads_cons_none hdoc, heads, List.filterMap_cons_some c.head?_headLine,
    List.filterMap_nil]

/-- The lines of a class in the parts that a reader finds. -/
theorem lines_eq_front (c : HeaderClass) :
    c.lines = c.front ++ "public:".toList ::
      (indent c.publicLines ++ "private:".toList ::
        (indent c.privateLines ++ ([r"};", ""] : List Text))) := by
  rw [lines_eq]
  simp only [front, List.append_assoc, List.cons_append, List.nil_append]

/-- The public declarations are read back. -/
theorem publicPart_lines (c : HeaderClass) : publicPart c.lines = c.publicLines := by
  rw [lines_eq_front]
  exact publicPart_block (fun _ => ne_public_of_mem_front) _ _

theorem openingPart_lines (c : HeaderClass) : openingPart c.lines = c.front := by
  rw [lines_eq_front]
  exact openingPart_block (fun _ => ne_public_of_mem_front) _

/-- At the margin of its lines a class opens itself and declares nothing else. -/
theorem heads_lines (c : HeaderClass) : heads c.lines = [.opens c.ownName] := by
  rw [lines_eq_front, heads_append, heads_front, heads_cons_none (by decide), heads_append,
    heads_indent, heads_cons_none (by decide), heads_append, heads_indent]
  rfl

/-- The constructor is no method. -/
theorem heads_constructorLines (c : HeaderClass) : heads c.constructorLines = [] := by
  cases c <;> simp [constructorLines, line, heads, head?, firstWord, noTypes]

theorem heads_builtInLines (c : HeaderClass) : heads c.builtInLines = c.builtIn.map .method := by
  cases c with
  | script r => rfl
  | wrapper scope luaName fields =>
    have hraw : head? "sol::table& RawTable() { return table_; }".toList =
        some (.method rawTableName) := by decide
    rw [builtInLines, heads_cons_none (by decide), heads, List.filterMap_cons_some hraw]
    rfl

/-- **What a class declares publicly**, as it is read: the classes for its tables, the methods of its
members in their order, and the built-in ones. -/
theorem heads_publicLines (c : HeaderClass) :
    heads c.publicLines = c.tables.map (fun d => Head.opens d.ownName) ++
      (c.declared.flatMap Member.methodNames ++ c.builtIn).map Head.method := by
  have htables : heads (c.tables.flatMap lines) = c.tables.map fun d => Head.opens d.ownName := by
    rw [heads_flatMap, ← List.flatMap_pure_eq_map]
    apply List.flatMap_congr
    exact fun d _ => d.heads_lines
  have hmembers : heads (c.accessors.flatMap (accessorLines c.owner)) =
      (c.declared.flatMap Member.methodNames).map Head.method := by
    rw [accessors, List.flatMap_map, heads_flatMap, List.map_flatMap]
    apply List.flatMap_congr
    intro m hm
    exact heads_accessorLines c.owner fun _ hname => (name_of_claimed hm hname).1
  rw [publicLines, heads_append, heads_append, heads_append, htables, hmembers,
    heads_constructorLines, heads_builtInLines, List.append_nil, List.map_append, List.append_assoc]

/-- The classes inside a class are opened in its public part, in the order of their tables. -/
theorem innerNames_lines (c : HeaderClass) : innerNames c.lines = c.tables.map ownName := by
  rw [innerNames, publicPart_lines, heads_publicLines]
  simp [List.filterMap_map, Function.comp_def, Head.class?]

/-- The methods of a class are those of the members that it declares, in their order, and the built-in
ones. -/
theorem methodNames_lines (c : HeaderClass) :
    methodNames c.lines = c.declared.flatMap Member.methodNames ++ c.builtIn := by
  rw [methodNames, publicPart_lines, heads_publicLines]
  simp [List.filterMap_map, Function.comp_def, Head.method?]

/-- The names that a class declares publicly: its own, those of its inner classes, its methods. -/
theorem publicNames_lines (c : HeaderClass) :
    publicNames c.lines = c.ownName ::
      (c.tables.map ownName ++ (c.declared.flatMap Member.methodNames ++ c.builtIn)) := by
  rw [publicNames, openingPart_lines, publicPart_lines, heads_append, heads_front,
    heads_publicLines]
  simp [Function.comp_def, Head.name]

end HeaderClass

end LuaAccessors.Cpp
