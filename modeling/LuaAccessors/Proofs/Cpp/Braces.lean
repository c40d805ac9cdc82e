import LuaAccessors.Proofs.Cpp.PrivateNames
import LuaAccessors.Proofs.Lexis.Depth

/-!
# The braces of a header

The braces of a header balance, and no line of it holds a line end, as long as the texts that it takes over
from outside are plain: the name of the script, the namespace and the parameters. Everything else that it
takes over is an identifier.

- `marksOf`, `Balanced`: the braces and line ends in some lines, and lines in which they balance;
- `IsPlainText`: texts without braces and line ends;
- `HeaderClass.balanced_lines`: a class, the classes inside it included;
- `headerLines`, `balanced_headerLines`: the lines of a header;
- `depthInside?_join`, `splitOn_join`: a header is cut into its lines.
-/

namespace LuaAccessors.Cpp

open Lexis

/-! ## §1 Braces and line ends -/

/-- A character that structures a header: a brace or the end of a line. -/
def isMark (c : Char) : Bool := isBrace c || c == '\n'

/-- The braces and line ends in some lines. -/
def marksOf (lines : List Text) : Text := lines.flatten.filter isMark

/-- The lines hold no line end, and behind them as many braces are open as in front of them. -/
structure Balanced (lines : List Text) : Prop where
  unbroken : '\n' ∉ marksOf lines
  depth_eq : ∀ depth, depthInside? depth (marksOf lines) = some depth

@[simp] theorem marksOf_cons (l : Text) (lines : List Text) :
    marksOf (l :: lines) = l.filter isMark ++ marksOf lines := by
  simp [marksOf]

theorem marksOf_append (xs ys : List Text) : marksOf (xs ++ ys) = marksOf xs ++ marksOf ys := by
  simp [marksOf]

theorem filter_indentLine (l : Text) : (indentLine l).filter isMark = l.filter isMark := by
  cases l <;> simp [indentLine, isMark, isBrace]

theorem marksOf_indent (lines : List Text) : marksOf (indent lines) = marksOf lines := by
  induction lines with
  | nil => rfl
  | cons l lines ih =>
    have ih : marksOf (lines.map indentLine) = marksOf lines := ih
    rw [indent, List.map_cons, marksOf_cons, filter_indentLine, ih, marksOf_cons]

theorem balanced_nil : Balanced [] := ⟨by simp [marksOf], fun _ => rfl⟩

theorem balanced_of_marksOf {lines : List Text} {marks : Text} (h : marksOf lines = marks)
    (hunbroken : '\n' ∉ marks) (hdepth : ∀ depth, depthInside? depth marks = some depth) :
    Balanced lines :=
  ⟨h ▸ hunbroken, h ▸ hdepth⟩

theorem Balanced.append {xs ys : List Text} (hxs : Balanced xs) (hys : Balanced ys) :
    Balanced (xs ++ ys) where
  unbroken := by simp [marksOf_append, hxs.unbroken, hys.unbroken]
  depth_eq := fun depth => by
    rw [marksOf_append, depthInside?_append, hxs.depth_eq, Option.bind_some, hys.depth_eq]

theorem Balanced.flatMap {α : Type} {xs : List α} {f : α → List Text}
    (h : ∀ x ∈ xs, Balanced (f x)) : Balanced (xs.flatMap f) := by
  induction xs with
  | nil => exact balanced_nil
  | cons x xs ih =>
    rw [List.flatMap_cons]
    exact (h x List.mem_cons_self).append (ih fun y hy => h y (List.mem_cons_of_mem _ hy))

theorem Balanced.indent {lines : List Text} (h : Balanced lines) : Balanced (indent lines) where
  unbroken := by rw [marksOf_indent]; exact h.unbroken
  depth_eq := by rw [marksOf_indent]; exact h.depth_eq

/-- Lines with an opening brace in front of balanced lines and a closing one behind them. -/
theorem Balanced.enclosed {front lines behind : List Text} (hfront : marksOf front = ['{'])
    (h : Balanced lines) (hbehind : marksOf behind = ['}']) :
    Balanced (front ++ lines ++ behind) where
  unbroken := by simp [marksOf_append, hfront, hbehind, h.unbroken]
  depth_eq := fun depth => by
    rw [marksOf_append, marksOf_append, hfront, hbehind, depthInside?_append, List.singleton_append,
      depthInside?, if_pos rfl, h.depth_eq, Option.bind_some]
    simp [depthInside?]

/-! ## §2 Plain texts

What a header takes over from a script ends up inside its lines. It disturbs nothing as long as it is plain, and
names made of identifiers always are.
-/

/-- A text without braces and line ends. -/
def IsPlainText (t : Text) : Prop := ∀ c ∈ t, isMark c = false

theorem isPlainText_of_all {t : Text} (h : t.all (!isMark ·) = true) : IsPlainText t := by
  intro c hc
  simpa using List.all_eq_true.1 h c hc

theorem IsPlainText.filter_eq {t : Text} (h : IsPlainText t) : t.filter isMark = [] :=
  List.filter_eq_nil_iff.2 fun c hc => by simp [h c hc]

theorem eq_of_isMark {c : Char} (h : isMark c = true) : c = '{' ∨ c = '}' ∨ c = '\n' := by
  simpa [isMark, isBrace, or_assoc] using h

theorem isPlainText_of_isNamePart {t : Text} (h : ∀ c ∈ t, isNamePart c = true) : IsPlainText t := by
  intro c hc
  by_contra hmark
  have hpart := h c hc
  rcases eq_of_isMark ((Bool.not_eq_false _).mp hmark) with rfl | rfl | rfl <;> cases hpart

theorem isPlainText_of_isIdentifier {name : Text} (h : isIdentifier name = true) : IsPlainText name := by
  intro c hc
  by_contra hmark
  rcases eq_of_isMark ((Bool.not_eq_false _).mp hmark) with rfl | rfl | rfl
  all_goals exact not_mem_of_isIdentifier h (by decide) hc

theorem IsPlainText.pascalCase {name : Text} (h : IsPlainText name) : IsPlainText (pascalCase name) := by
  intro c hc
  by_contra hmark
  -- A mark is no letter in any case, so it would come from the name.
  have hcase : isCaseImage c.toNat = false := by
    rcases eq_of_isMark ((Bool.not_eq_false _).mp hmark) with rfl | rfl | rfl <;> decide
  exact hmark (h c (mem_of_mem_pascalCase hcase hc))

theorem isPlainText_append {t u : Text} (ht : IsPlainText t) (hu : IsPlainText u) :
    IsPlainText (t ++ u) := by
  intro c hc
  rcases List.mem_append.1 hc with hc | hc
  · exact ht c hc
  · exact hu c hc

theorem isPlainText_join {pieces : List Text} (h : ∀ piece ∈ pieces, IsPlainText piece) :
    IsPlainText (Text.join ", ".toList pieces) := by
  intro c hc
  rcases Text.mem_of_mem_join hc with hc | ⟨piece, hpiece, hc⟩
  · exact isPlainText_of_all (t := ", ".toList) rfl c hc
  · exact h piece hpiece c hc

theorem isPlainText_typeText (type : CppType) : IsPlainText type.text := by
  cases type <;> exact isPlainText_of_all rfl

theorem IsPlainText.parameterName {name : Text} (h : IsPlainText name) :
    IsPlainText (parameterName name) := by
  unfold Cpp.parameterName
  split
  · exact isPlainText_append h (isPlainText_of_all rfl)
  · exact h

theorem IsPlainText.argument {name : Text} (h : IsPlainText name) (type : CppType) :
    IsPlainText (argument type name) := by
  unfold Cpp.argument
  split
  all_goals simp only [line, List.flatten_cons, List.flatten_nil, List.append_nil]
  · exact isPlainText_append (isPlainText_of_all rfl) (isPlainText_append (isPlainText_typeText type)
      (isPlainText_append (isPlainText_of_all rfl) h))
  · exact isPlainText_append (isPlainText_typeText type)
      (isPlainText_append (isPlainText_of_all rfl) h)

/-! ## §3 Members -/

theorem marksOf_methodLines {f : Function} (hname : IsPlainText f.name)
    (hparameters : ∀ p ∈ f.parameters, IsPlainText p.name) :
    marksOf (methodLines f) = ['{', '{', '{', '}', '}', '{', '}', '}'] := by
  -- What is put into the lines is plain: the type, the names and the arguments. So only the fixed text counts.
  have htype := (isPlainText_typeText (.ofResult f.returnType)).filter_eq
  have hmethod := hname.pascalCase.filter_eq
  have hcache := (isPlainText_of_isNamePart (isNamePart_of_mem_functionCacheName f.name)).filter_eq
  have harguments : IsPlainText (Text.join ", ".toList (f.parameters.map fun p =>
      argument (.ofParameter p.explicitType) (parameterName p.name))) := by
    apply isPlainText_join
    intro piece hpiece
    obtain ⟨p, hp, rfl⟩ := List.mem_map.1 hpiece
    exact (hparameters p hp).parameterName.argument _
  have hnames : IsPlainText (Text.join ", ".toList
      (f.parameters.map fun p => parameterName p.name)) := by
    apply isPlainText_join
    intro piece hpiece
    obtain ⟨p, hp, rfl⟩ := List.mem_map.1 hpiece
    exact (hparameters p hp).parameterName
  have hreturn : marksOf (if CppType.ofResult f.returnType = .void then []
      else [line ["    return result.get<", (CppType.ofResult f.returnType).text, ">();"]]) = [] := by
    split
    · rfl
    · simp only [marksOf_cons, line, List.flatten_cons, List.filter_append, htype]
      repeat rewrite [String.toList_ofList]
      rfl
  -- Of a line without its plain pieces the marks are computed.
  unfold methodLines
  rw [marksOf_append, marksOf_append, hreturn]
  simp only [marksOf_cons, line, List.flatten_cons, List.filter_append, htype, hname.filter_eq, hmethod,
    hcache, harguments.filter_eq, hnames.filter_eq]
  repeat rewrite [String.toList_ofList]
  rfl

theorem isPlainText_source (o : Owner) : IsPlainText o.source := by
  cases o <;> exact isPlainText_of_all rfl

theorem isPlainText_kind (o : Owner) : IsPlainText o.kind := by
  cases o <;> exact isPlainText_of_all rfl

theorem IsPlainText.tableClassName {luaName : Text} (h : IsPlainText luaName) :
    IsPlainText (tableClassName luaName) := by
  exact isPlainText_append h.pascalCase (isPlainText_of_all rfl)

theorem IsPlainText.setterName {luaName : Text} (h : IsPlainText luaName) :
    IsPlainText (setterName luaName) := by
  exact isPlainText_append (isPlainText_of_all rfl) h.pascalCase

/-- What is said of the members of a class is plain if their names are. -/
theorem isPlainText_docs {luaName : Text} (h : IsPlainText luaName) (o : Owner) :
    IsPlainText (o.valueDoc luaName) ∧ IsPlainText (o.tableDoc luaName) ∧
      IsPlainText (o.classDoc luaName) := by
  have hline : ∀ t u : Text, IsPlainText t → IsPlainText u → IsPlainText (line [t, luaName, u]) := by
    intro t u ht hu
    simp only [line, List.flatten_cons, List.flatten_nil, List.append_nil]
    exact isPlainText_append ht (isPlainText_append h hu)
  refine ⟨?_, ?_, ?_⟩
  all_goals cases o <;> exact hline _ _ (isPlainText_of_all rfl) (isPlainText_of_all rfl)

theorem marksOf_propertyLines {luaName : Text} (h : IsPlainText luaName) (o : Owner) (type : CppType) :
    marksOf (propertyLines o luaName type) = ['{', '}', '{', '}'] := by
  have hvalue : IsPlainText (argument type "value".toList) := by
    apply IsPlainText.argument
    exact isPlainText_of_all rfl
  unfold propertyLines
  simp only [marksOf_cons, line, List.flatten_cons, List.filter_append]
  simp only [(isPlainText_docs h o).1.filter_eq, (isPlainText_typeText type).filter_eq, h.filter_eq,
    h.pascalCase.filter_eq, h.setterName.filter_eq, hvalue.filter_eq, (isPlainText_source o).filter_eq]
  repeat rewrite [String.toList_ofList]
  rfl

theorem marksOf_tableLines {luaName : Text} (h : IsPlainText luaName) (o : Owner) :
    marksOf (tableLines o luaName) = ['{', '{', '{', '}', '}', '}'] := by
  have hcache := isPlainText_of_isNamePart (isNamePart_of_mem_tableCacheName luaName)
  unfold tableLines
  simp only [marksOf_cons, line, List.flatten_cons, List.filter_append]
  simp only [(isPlainText_docs h o).2.1.filter_eq, h.filter_eq, h.pascalCase.filter_eq,
    h.tableClassName.filter_eq, hcache.filter_eq, (isPlainText_source o).filter_eq,
    (isPlainText_kind o).filter_eq]
  repeat rewrite [String.toList_ofList]
  rfl

/-! ## §4 Classes

A class is a head, its members and an end. It balances by itself, so it can be part of another class at any
depth.
-/

/-- The names in a class are plain: that of the table, or those of the script and of its parameters. -/
def HeaderClass.IsPlain : HeaderClass → Prop
  | .script r => IsPlainText r.fileName ∧ ∀ f ∈ r.functions, ∀ p ∈ f.parameters, IsPlainText p.name
  | .wrapper _ luaName _ => IsPlainText luaName

namespace HeaderClass

variable {c : HeaderClass}

theorem isPlain_of_mem_tables {d : HeaderClass} (hd : d ∈ c.tables) : d.IsPlain := by
  obtain ⟨m, hm, -, rfl⟩ := mem_tables.1 hd
  exact isPlainText_of_isIdentifier (isIdentifier_of_mem_declared hm)

theorem IsPlain.ownName (hc : c.IsPlain) : IsPlainText c.ownName := by
  cases c with
  | script r =>
    exact isPlainText_append hc.1.pascalCase (isPlainText_of_all rfl)
  | wrapper scope luaName fields => exact IsPlainText.tableClassName hc

/-- The parameters of a method are plain. -/
theorem IsPlain.parameters (hc : c.IsPlain) {f : Function} (hf : .function f ∈ c.declared) :
    ∀ p ∈ f.parameters, IsPlainText p.name := by
  cases c with
  | script r =>
    rcases List.mem_append.1 (mem_members_of_mem_declared hf) with hf | hf
    · obtain ⟨g, hg, heq⟩ := List.mem_map.1 hf
      cases heq
      exact hc.2 f hg
    · obtain ⟨g, -, heq⟩ := List.mem_map.1 hf
      cases heq
  | wrapper scope luaName fields =>
    obtain ⟨x, -, heq⟩ := List.mem_map.1 (mem_of_mem_exposed (mem_of_mem_claimed hf))
    cases heq

/-! ### Balanced classes -/

theorem balanced_accessorLines (hc : c.IsPlain) {m : Member} (hm : m ∈ c.declared) :
    Balanced (accessorLines c.owner (.ofMember m)) := by
  have hname := isPlainText_of_isIdentifier (isIdentifier_of_mem_declared hm)
  rcases m.cases_declared with ⟨f, rfl⟩ | ⟨-, -, -, hmember⟩ | ⟨-, -, -, type, hmember⟩
  · exact balanced_of_marksOf (marksOf_methodLines hname (hc.parameters hm)) (by decide)
      (by simp [depthInside?])
  · rw [hmember, tableAccessor_eq []]
    exact balanced_of_marksOf (marksOf_tableLines hname c.owner) (by decide) (by simp [depthInside?])
  · rw [hmember]
    exact balanced_of_marksOf (marksOf_propertyLines hname c.owner type) (by decide)
      (by simp [depthInside?])

theorem balanced_cacheLines {m : Member} (hm : m ∈ c.declared) : Balanced (cacheLines (.ofMember m)) := by
  have hname := isPlainText_of_isIdentifier (isIdentifier_of_mem_declared hm)
  have hmarks : marksOf (cacheLines (.ofMember m)) = [] := by
    rcases m.cases_declared with ⟨f, rfl⟩ | ⟨-, -, -, hmember⟩ | ⟨-, -, -, type, hmember⟩
    · have hcache := isPlainText_of_isNamePart (isNamePart_of_mem_functionCacheName f.name)
      simp only [Accessor.ofMember, cacheLines, marksOf_cons, line, List.flatten_cons,
        List.filter_append, hcache.filter_eq]
      repeat rewrite [String.toList_ofList]
      rfl
    · have hcache := isPlainText_of_isNamePart (isNamePart_of_mem_tableCacheName m.name)
      rw [hmember, tableAccessor_eq []]
      simp only [cacheLines, marksOf_cons, line, List.flatten_cons, List.filter_append,
        hname.tableClassName.filter_eq, hcache.filter_eq]
      repeat rewrite [String.toList_ofList]
      rfl
    · -- A plain value is not kept.
      rw [hmember]
      rfl
  exact balanced_of_marksOf hmarks (by simp) fun _ => rfl

theorem balanced_constructorLines (hc : c.IsPlain) : Balanced c.constructorLines := by
  have hmarks : marksOf c.constructorLines = ['{', '}'] := by
    have hown := hc.ownName.filter_eq
    cases c with
    | script r =>
      have hfile := hc.1.filter_eq
      rw [ownName] at hown
      simp only [constructorLines, marksOf_cons, line, List.flatten_cons, List.filter_append, hfile, hown]
      repeat rewrite [String.toList_ofList]
      rfl
    | wrapper scope luaName fields =>
      rw [ownName] at hown
      simp only [constructorLines, marksOf_cons, line, List.flatten_cons, List.filter_append, hown]
      repeat rewrite [String.toList_ofList]
      rfl
  exact balanced_of_marksOf hmarks (by decide) (by simp [depthInside?])

theorem balanced_builtInLines (c : HeaderClass) : Balanced c.builtInLines := by
  cases c with
  | script r => exact balanced_nil
  | wrapper scope luaName fields =>
    have hmarks : marksOf (wrapper scope luaName fields).builtInLines = ['{', '}'] := by
      simp only [builtInLines, marksOf_cons]
      repeat rewrite [String.toList_ofList]
      rfl
    exact balanced_of_marksOf hmarks (by decide) (by simp [depthInside?])

/-- The lines in front of the public declarations open a brace, and those behind the private ones close
it. -/
theorem marksOf_front (hc : c.IsPlain) : marksOf [c.docLine, c.headLine, "public:"] = ['{'] := by
  -- The comment quotes a name of the source, in which there is no brace.
  have hdoc : IsPlainText c.docLine := by
    cases c with
    | script r =>
      simp only [docLine, line, List.flatten_cons, List.flatten_nil, List.append_nil]
      exact isPlainText_append (isPlainText_of_all rfl)
        (isPlainText_append hc.1 (isPlainText_of_all rfl))
    | wrapper scope luaName fields =>
      simp only [docLine, line, List.flatten_cons, List.flatten_nil, List.append_nil]
      exact isPlainText_append (isPlainText_of_all rfl) (isPlainText_docs hc _).2.2
  simp only [marksOf_cons, headLine, line, List.flatten_cons, List.filter_append, hdoc.filter_eq,
    hc.ownName.filter_eq]
  repeat rewrite [String.toList_ofList]
  rfl

/-- **The braces of a class** balance, those of the classes inside it included. -/
theorem balanced_lines (hc : c.IsPlain) : Balanced c.lines := by
  induction c using HeaderClass.induction with
  | step c ih =>
    -- The members of a class are written in two places, their accessors and what is kept of them.
    have hmembers : ∀ f : Accessor → List Text, (∀ m ∈ c.declared, Balanced (f (.ofMember m))) →
        Balanced (c.accessors.flatMap f) := by
      intro f hf
      rw [accessors, List.flatMap_map]
      exact Balanced.flatMap hf
    -- The classes for tables are part of the public lines, and they balance by induction.
    have hpublic : Balanced c.publicLines := by
      apply Balanced.append
      · apply Balanced.append
        · apply Balanced.append
          · exact Balanced.flatMap fun d hd => ih d hd (isPlain_of_mem_tables hd)
          · exact balanced_constructorLines hc
        · exact hmembers _ fun m => balanced_accessorLines hc
      · exact balanced_builtInLines c
    have hprivate : Balanced c.privateLines := by
      have hhandle : Balanced [c.handleLine] := by
        have hmarks : marksOf [c.handleLine] = [] := by cases c <;> rfl
        exact balanced_of_marksOf hmarks (by simp) fun _ => rfl
      exact hhandle.append (hmembers _ fun m => balanced_cacheLines)
    have hmiddle : Balanced (["private:".toList] : List Text) :=
      @balanced_of_marksOf _ [] rfl (by simp) fun _ => rfl
    have hbehind : marksOf [r"};", ""] = ['}'] := rfl
    -- The class has one brace of its own in front of all this, and one behind it.
    have hlines := Balanced.enclosed (marksOf_front hc)
      ((hpublic.indent.append hmiddle).append hprivate.indent) hbehind
    rw [lines_eq]
    simpa only [List.append_assoc] using hlines

end HeaderClass

/-! ## §5 The lines of a header -/

/-- The lines of a header. -/
def headerLines (ns : Text) (c : ScriptClass) : List Text :=
  preamble c.stem ++ [line ["namespace ", ns, r" {"], ""] ++ scriptClassLines c
    ++ [line [r"}  // namespace ", ns], ""]

theorem header_eq (ns : Text) (c : ScriptClass) : header ns c = Text.join ['\n'] (headerLines ns c) := rfl

theorem balanced_headerLines {r : ParseResult} (hr : (HeaderClass.script r).IsPlain) {ns : Text}
    (hns : IsPlainText ns) : Balanced (headerLines ns (.ofResult r)) := by
  have hpreamble : marksOf (preamble r.fileName) = [] := by
    simp only [preamble, marksOf_cons, line, List.flatten_cons, List.filter_append, hr.1.filter_eq]
    repeat rewrite [String.toList_ofList]
    rfl
  have hopening : marksOf [line ["namespace ", ns, r" {"], ""] = ['{'] := by
    simp only [marksOf_cons, line, List.flatten_cons, List.filter_append, hns.filter_eq]
    repeat rewrite [String.toList_ofList]
    rfl
  have hclosing : marksOf [line [r"}  // namespace ", ns], ""] = ['}'] := by
    simp only [marksOf_cons, line, List.flatten_cons, List.filter_append, hns.filter_eq]
    repeat rewrite [String.toList_ofList]
    rfl
  have hclass : Balanced (scriptClassLines (.ofResult r)) := HeaderClass.balanced_lines hr
  -- The namespace encloses the class as the class encloses its members.
  have hspace := Balanced.enclosed hopening hclass hclosing
  have hfront := balanced_of_marksOf hpreamble (by simp) fun _ => rfl
  have hlines := hfront.append hspace
  have hstem : (ScriptClass.ofResult r).stem = r.fileName := rfl
  simpa only [headerLines, hstem, List.append_assoc] using hlines

/-- Where a text is cut into lines does not matter for its braces. -/
theorem depthInside?_join (depth : Nat) (lines : List Text) :
    depthInside? depth (Text.join ['\n'] lines) = depthInside? depth (marksOf lines) := by
  -- Characters other than braces and line ends do not change the depth, so they may be left out line by line.
  have hfilter : ∀ (t : Text) depth, depthInside? depth (t.filter isMark) = depthInside? depth t := by
    intro t
    induction t with
    | nil => exact fun _ => rfl
    | cons c t ih =>
      intro depth
      by_cases hc : isMark c = true
      · rw [List.filter_cons_of_pos hc, depthInside?, depthInside?]
        simp only [ih]
      · have hne : c ≠ '{' ∧ c ≠ '}' := by
          constructor
          all_goals
            rintro rfl
            exact hc rfl
        rw [List.filter_cons_of_neg hc, ih, depthInside?, if_neg hne.1, if_neg hne.2]
  induction lines generalizing depth with
  | nil => rfl
  | cons l lines ih =>
    rw [marksOf_cons, depthInside?_append, hfilter]
    -- Between two lines the join puts a line end, which is no brace.
    cases lines with
    | nil =>
      rw [Text.join]
      cases depthInside? depth l <;> rfl
    | cons l' lines =>
      rw [Text.join, depthInside?_append, depthInside?_append, Option.bind_assoc]
      apply Option.bind_congr
      intro d _
      rw [← ih]
      rfl

theorem splitOn_join {lines : List Text} (hne : lines ≠ []) (h : '\n' ∉ marksOf lines) :
    Text.splitOn '\n' (Text.join ['\n'] lines) = lines := by
  apply Text.splitWhere_join (by simp) hne
  intro l hl c hc
  by_contra hfeed
  rw [Bool.not_eq_false, beq_iff_eq] at hfeed
  apply h
  rw [marksOf, List.mem_filter, List.mem_flatten]
  exact ⟨⟨l, hl, hfeed ▸ hc⟩, rfl⟩

end LuaAccessors.Cpp
