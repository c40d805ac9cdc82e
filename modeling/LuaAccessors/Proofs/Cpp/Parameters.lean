import Mathlib.Data.List.Infix
import LuaAccessors.Proofs.Cpp.PublicNames
import LuaAccessors.Proofs.Extraction.Names

/-!
# Parameters of methods

A method has the parameters of its function, in their order and under their Lua names. A name that is reserved
gets `_lua` put behind it, so no parameter is called by a reserved word; but the longer name is not compared
with the other parameters, and of the names that the body of the method uses, two are not reserved.

- `parameterName_eq_iff`: which names become equal;
- `declaredParameters`: the names in the declaration of a method, read off its lines;
- `bodyNames`: the names that the body of a method uses;
- `parameters_of_method`: what the parameters of a method are called, for any source;
- `not_all_parameters_usable`: a parameter that hides the state of the interpreter.
-/

namespace LuaAccessors.Cpp

/-! ## §1 Reserved names -/

/-- The name is reserved, in some letter case. -/
def IsReserved (name : Text) : Prop := lower name ∈ reservedWords

instance : DecidablePred IsReserved := fun name =>
  inferInstanceAs (Decidable (lower name ∈ reservedWords))

/-- What is put behind a reserved name. -/
def reservedSuffix : Text := "_lua".toList

theorem parameterName_of_isReserved {name : Text} (h : IsReserved name) :
    parameterName name = name ++ reservedSuffix := by
  rw [parameterName, if_pos (by simpa [IsReserved] using h), reservedSuffix]

theorem parameterName_of_not_isReserved {name : Text} (h : ¬IsReserved name) :
    parameterName name = name := by
  rw [parameterName, if_neg (by simpa [IsReserved] using h)]

/-- In lower case a text ends as it did if its end is the same in lower case whatever stands in front. -/
theorem exists_lower_append {e : Text} (he : ∀ before, lowerAfter before e = e) (t : Text) :
    ∃ w, lower (t ++ e) = w ++ e := by
  have hafter : ∀ before, ∃ w, lowerAfter before (t ++ e) = w ++ e := by
    induction t with
    | nil => exact fun before => ⟨[], he before⟩
    | cons c t ih =>
      intro before
      obtain ⟨w, hw⟩ := ih (c :: before)
      rw [List.cons_append, lowerAfter, hw, ← List.append_assoc]
      exact ⟨_, rfl⟩
  exact hafter []

/-- A name is not reserved if it has an end that no reserved word has. -/
theorem not_isReserved_append {e : Text} (he : ∀ before, lowerAfter before e = e)
    (hwords : ∀ word ∈ reservedWords, ¬e <:+ word) (name : Text) : ¬IsReserved (name ++ e) := by
  intro h
  obtain ⟨w, hw⟩ := exists_lower_append he name
  exact hwords _ h ⟨w, hw.symm⟩

/-- No reserved word ends as longer names do, or in an underscore. -/
theorem ends_of_mem_reservedWords :
    ∀ word ∈ reservedWords, ¬reservedSuffix <:+ word ∧ ¬['_'] <:+ word := by
  decide +kernel

/-- A name that has been made longer is not reserved any more. -/
theorem not_isReserved_longer (name : Text) : ¬IsReserved (name ++ reservedSuffix) := by
  apply not_isReserved_append fun _ => rfl
  exact fun word hword => (ends_of_mem_reservedWords word hword).1

theorem not_isReserved_underscore (name : Text) : ¬IsReserved (name ++ ['_']) := by
  apply not_isReserved_append fun _ => rfl
  exact fun word hword => (ends_of_mem_reservedWords word hword).2

/-- **Which names become equal**: equal ones, and a reserved name with the one that it is made. -/
theorem parameterName_eq_iff {a b : Text} : parameterName a = parameterName b ↔
    a = b ∨ (IsReserved a ∧ b = a ++ reservedSuffix) ∨ (IsReserved b ∧ a = b ++ reservedSuffix) := by
  have hlonger : ∀ {a : Text}, IsReserved a →
      parameterName a = parameterName (a ++ reservedSuffix) := fun {a} ha => by
    rw [parameterName_of_isReserved ha, parameterName_of_not_isReserved (not_isReserved_longer a)]
  constructor
  · intro h
    -- If both names or none is made longer, they were equal before.
    by_cases ha : IsReserved a <;> by_cases hb : IsReserved b
    · rw [parameterName_of_isReserved ha, parameterName_of_isReserved hb] at h
      exact .inl (List.append_cancel_right h)
    · rw [parameterName_of_isReserved ha, parameterName_of_not_isReserved hb] at h
      exact .inr (.inl ⟨ha, h.symm⟩)
    · rw [parameterName_of_not_isReserved ha, parameterName_of_isReserved hb] at h
      exact .inr (.inr ⟨hb, h⟩)
    · rw [parameterName_of_not_isReserved ha, parameterName_of_not_isReserved hb] at h
      exact .inl h
  · rintro (rfl | ⟨ha, rfl⟩ | ⟨hb, rfl⟩)
    · rfl
    · exact hlonger ha
    · exact (hlonger hb).symm

/-- Distinct names stay distinct unless one of them is what another one is made. -/
theorem nodup_map_parameterName_iff {names : List Text} (h : names.Nodup) :
    (names.map parameterName).Nodup ↔ ∀ a ∈ names, IsReserved a → a ++ reservedSuffix ∉ names := by
  constructor
  · -- A reserved name and its longer form would get one name.
    intro hdistinct a ha hreserved hmem
    have heq : parameterName a = parameterName (a ++ reservedSuffix) :=
      parameterName_eq_iff.2 (.inr (.inl ⟨hreserved, rfl⟩))
    have := List.inj_on_of_nodup_map hdistinct ha hmem heq
    simp [reservedSuffix] at this
  · intro hfree
    apply h.map_on
    intro a ha b hb heq
    rcases parameterName_eq_iff.1 heq with hab | ⟨hreserved, rfl⟩ | ⟨hreserved, rfl⟩
    · exact hab
    · exact absurd hb (hfree a ha hreserved)
    · exact absurd ha (hfree b hb hreserved)

/-- A name that could be the longer form of no other one is the name of the same parameter only. -/
theorem parameterName_eq_iff_of_not_suffix {a name : Text} (hsuffix : ¬reservedSuffix <:+ name) :
    parameterName a = name ↔ a = name ∧ ¬IsReserved name := by
  constructor
  · intro h
    by_cases ha : IsReserved a
    · rw [parameterName_of_isReserved ha] at h
      exact absurd ⟨a, h⟩ hsuffix
    · rw [parameterName_of_not_isReserved ha] at h
      exact ⟨h, h ▸ ha⟩
  · rintro ⟨rfl, hname⟩
    exact parameterName_of_not_isReserved hname

/-- A parameter is called by an identifier exactly if its Lua name is one. -/
theorem isIdentifier_parameterName {name : Text} (hne : name ≠ []) :
    isIdentifier (parameterName name) = isIdentifier name := by
  by_cases h : IsReserved name
  · rw [parameterName_of_isReserved h]
    cases name with
    | nil => exact absurd rfl hne
    | cons c rest =>
      have hsuffix : (reservedSuffix.all fun d => isAlphanumeric d || d == '_') = true := by decide
      rw [List.cons_append, isIdentifier, isIdentifier, ← List.cons_append, List.all_append, hsuffix,
        Bool.and_true]
  · rw [parameterName_of_not_isReserved h]

/-! ## §2 Lists of parameters -/

/-- The text between the first two parentheses. -/
def parenthesized (l : Text) : Text := ((l.dropWhile (· != '(')).tail).takeWhile (· != ')')

theorem parenthesized_append {front inside : Text} (hfront : '(' ∉ front) (hinside : ')' ∉ inside)
    (rest : Text) : parenthesized (front ++ '(' :: (inside ++ ')' :: rest)) = inside := by
  rw [parenthesized, Text.dropWhile_append_cons hfront, List.tail_cons,
    Text.takeWhile_append_cons hinside]

/-- A blank in front of a list does not count. -/
theorem splitParameters_space (t : Text) : splitParameters (' ' :: t) = splitParameters t := by
  obtain ⟨piece, pieces, hcut⟩ := List.exists_cons_of_ne_nil (Text.splitWhere_ne_nil (· == ',') t)
  have hstrip : Text.strip (' ' :: piece) = Text.strip piece := by
    rw [Text.strip, List.dropWhile_cons_of_pos (by decide), Text.strip]
  have hcut' : Text.splitWhere (· == ',') (' ' :: t) = (' ' :: piece) :: pieces := by
    rw [Text.splitWhere, if_neg (by decide), hcut]
  rw [splitParameters, splitParameters, Text.splitOn, Text.splitOn, hcut, hcut', List.map_cons,
    List.map_cons, hstrip]

/-- The first piece of a list ends at the first comma. -/
theorem splitParameters_comma {piece : Text} (h : IsPiece piece) (t : Text) :
    splitParameters (piece ++ ',' :: t) = piece :: splitParameters t := by
  have hcut : Text.splitWhere (· == ',') (piece ++ ',' :: t) =
      piece :: Text.splitWhere (· == ',') t := by
    apply Text.splitWhere_append_cons _ rfl
    intro c hc
    simpa using Text.bne_of_not_mem h.not_mem_comma c hc
  rw [splitParameters, Text.splitOn, hcut, List.map_cons, Text.strip_eq_self h.trimmed,
    List.filter_cons_of_pos (by simpa using h.ne_nil), splitParameters, Text.splitOn]

/-- **A list of parameters is read back.** -/
theorem splitParameters_join {pieces : List Text} (h : ∀ piece ∈ pieces, IsPiece piece) :
    splitParameters (Text.join ", ".toList pieces) = pieces := by
  induction pieces with
  | nil => rfl
  | cons piece rest ih =>
    have hpiece := h piece List.mem_cons_self
    have ih := ih fun p hp => h p (List.mem_cons_of_mem _ hp)
    cases rest with
    | nil =>
      rw [Text.join, splitParameters, Text.splitOn_eq_self hpiece.not_mem_comma, List.map_singleton,
        Text.strip_eq_self hpiece.trimmed, List.filter_cons_of_pos (by simpa using hpiece.ne_nil),
        List.filter_nil]
    | cons next rest =>
      have hjoin : Text.join ", ".toList (piece :: next :: rest) =
          piece ++ ',' :: ' ' :: Text.join ", ".toList (next :: rest) := by
        simp [Text.join]
      -- The space behind the comma stands in front of the next piece.
      rw [hjoin, splitParameters_comma hpiece, splitParameters_space, ih]

/-- The text of a list holds no closing parenthesis. -/
theorem parenthesis_not_mem_join {pieces : List Text} (h : ∀ piece ∈ pieces, IsPiece piece) :
    ')' ∉ Text.join ", ".toList pieces := by
  intro hmem
  rcases Text.mem_of_mem_join hmem with hmem | ⟨piece, hpiece, hmem⟩
  · exact absurd hmem (by decide)
  · exact (h piece hpiece).not_mem_parenthesis hmem

/-! ## §3 The parameters of a method

The declaration of a method is cut at the commas between its arguments again. That needs arguments without
commas and parentheses, which is how parameters come out of a source.
-/

/-- The name in the declaration of an argument: what stands behind its type. -/
def argumentName (a : Text) : Text :=
  if firstWord a = "const".toList then behindFirstWord (behindFirstWord a) else behindFirstWord a

/-- The parameters in the declaration of a method. -/
def declaredParameters (block : List Text) : List Text :=
  match block.find? fun l => (head? l).isSome with
  | some l => (splitParameters (parenthesized l)).map argumentName
  | none => []

theorem argumentName_argument (type : CppType) (name : Text) :
    argumentName (argument type name) = name := by
  have hconst : ' ' ∉ "const".toList := by decide
  have hreference : ' ' ∉ type.text ++ ['&'] := by simpa using (type_word type).1
  have htype := (type_word type).1
  unfold argument
  -- A type that is handed over as a reference has one word more in front of the name.
  split
  · have hline : line ["const ", type.text, "& ", name] =
        "const".toList ++ ' ' :: ((type.text ++ ['&']) ++ ' ' :: name) := by simp [line]
    rw [hline, argumentName, (firstWord_append hconst _).1, if_pos rfl, (firstWord_append hconst _).2,
      (firstWord_append hreference _).2]
  · have hline : line [type.text, " ", name] = type.text ++ ' ' :: name := by simp [line]
    have hne : type.text ≠ "const".toList := by cases type <;> decide
    rw [hline, argumentName, (firstWord_append htype _).1, if_neg hne, (firstWord_append htype _).2]

/-- Pieces may be put together from texts that hold no blanks at the outer ends. -/
theorem isPiece_append {a b : Text} (ha : a ≠ []) (hb : b ≠ [])
    (hhead : ∀ c ∈ a.head?, isBlank c = false) (hlast : ∀ c ∈ b.getLast?, isBlank c = false)
    (hcomma : ',' ∉ a ∧ ',' ∉ b) (hparenthesis : ')' ∉ a ∧ ')' ∉ b) : IsPiece (a ++ b) := by
  constructor
  case ne_nil => simp [ha]
  case trimmed =>
    constructor
    · intro c hc
      rw [List.head?_append_of_ne_nil _ ha] at hc
      exact hhead c hc
    · intro c hc
      rw [List.getLast?_append_of_ne_nil _ hb] at hc
      exact hlast c hc
  case not_mem_comma => simp [hcomma]
  case not_mem_parenthesis => simp [hparenthesis]

/-- The declaration of an argument is a piece of a list. -/
theorem isPiece_argument (type : CppType) {name : Text} (h : IsPiece name) :
    IsPiece (argument type name) := by
  have hfront : argument type name = argument type [] ++ name := by
    unfold argument
    split <;> simp [line]
  -- What stands in front of the name depends on the type only, and there are few types.
  have htype : argument type [] ≠ [] ∧ (argument type []).head?.all (!isBlank ·) ∧
      ',' ∉ argument type [] ∧ ')' ∉ argument type [] := by
    cases type <;> decide
  obtain ⟨hne, hstart, hcomma, hparenthesis⟩ := htype
  have hhead : ∀ c ∈ (argument type []).head?, isBlank c = false := by
    intro c hc
    simpa using (Option.all_eq_true _ _).1 hstart c hc
  rw [hfront]
  exact isPiece_append hne h.ne_nil hhead h.trimmed.last ⟨hcomma, h.not_mem_comma⟩
    ⟨hparenthesis, h.not_mem_parenthesis⟩

theorem isPiece_parameterName {name : Text} (h : IsPiece name) : IsPiece (parameterName name) := by
  by_cases hreserved : IsReserved name
  · have hlast : ∀ c ∈ reservedSuffix.getLast?, isBlank c = false := by
      rintro _ ⟨⟩
      rfl
    rw [parameterName_of_isReserved hreserved]
    exact isPiece_append h.ne_nil (by decide) h.trimmed.head hlast
      ⟨h.not_mem_comma, by decide⟩ ⟨h.not_mem_parenthesis, by decide⟩
  · rw [parameterName_of_not_isReserved hreserved]
    exact h

/-- The arguments in the declaration of a method. -/
def argumentList (f : Function) : Text :=
  Text.join ", ".toList
    (f.parameters.map fun p => argument (.ofParameter p.explicitType) (parameterName p.name))

/-- The line that declares a method. -/
def declarationLine (f : Function) : Text :=
  ((CppType.ofResult f.returnType).text ++ ' ' :: pascalCase f.name) ++
    '(' :: (argumentList f ++ ')' :: r" {".toList)

/-- A method is declared behind a comment. -/
theorem exists_methodLines (f : Function) : ∃ body,
    methodLines f = line ["/// Calls the Lua function '", f.name, "'"] :: declarationLine f :: body := by
  have hline : line [(CppType.ofResult f.returnType).text, " ", pascalCase f.name, "(", argumentList f,
      r") {"] = declarationLine f := by
    simp [line, declarationLine]
  rw [← hline]
  exact ⟨_, rfl⟩

/-- The first line of a method that declares something is the one behind the comment. -/
theorem find?_methodLines {f : Function} (hname : isIdentifier (pascalCase f.name) = true) :
    (methodLines f).find? (fun l => (head? l).isSome) = some (declarationLine f) := by
  have hcomment : head? (line ["/// Calls the Lua function '", f.name, "'"]) = none := by
    simp [line, head?_comment]
  have hdeclaration : head? (declarationLine f) = some (.method (pascalCase f.name)) := by
    rw [declarationLine, List.append_assoc, List.cons_append]
    exact head?_declaration (type_word _) hname _
  obtain ⟨body, hlines⟩ := exists_methodLines f
  rw [hlines, List.find?_cons_of_neg, List.find?_cons_of_pos]
  · rw [hdeclaration]
    rfl
  · rw [hcomment]
    simp

/-- **The parameters in the declaration of a method** are those of its function. -/
theorem declaredParameters_methodLines {f : Function} (hname : isIdentifier (pascalCase f.name) = true)
    (hpieces : ∀ p ∈ f.parameters, IsPiece p.name) :
    declaredParameters (methodLines f) = f.parameters.map fun p => parameterName p.name := by
  have harguments : ∀ piece ∈ f.parameters.map fun p =>
      argument (.ofParameter p.explicitType) (parameterName p.name), IsPiece piece := by
    intro piece hpiece
    obtain ⟨p, hp, rfl⟩ := List.mem_map.1 hpiece
    exact isPiece_argument _ (isPiece_parameterName (hpieces p hp))
  -- The list starts at the first parenthesis of the line, for there is none in the type or in the name.
  have hfront : '(' ∉ (CppType.ofResult f.returnType).text ++ ' ' :: pascalCase f.name := by
    have hpascal : '(' ∉ pascalCase f.name := not_mem_of_isIdentifier hname (by decide)
    have htext : '(' ∉ (CppType.ofResult f.returnType).text := by
      cases CppType.ofResult f.returnType <;> decide
    simp [hpascal, htext]
  rw [declaredParameters, find?_methodLines hname]
  dsimp only
  rw [declarationLine, argumentList, parenthesized_append hfront (parenthesis_not_mem_join harguments),
    splitParameters_join harguments, List.map_map]
  apply List.map_congr_left
  intro p _
  exact argumentName_argument _ _

/-! ## §4 Names that the body uses -/

/-- The names that the body of a method uses: its variables, the state of the interpreter, and what the
function is kept in. -/
def bodyNames (f : Function) : List Text :=
  ["fn".toList, "result".toList, "err".toList, "lua_".toList, functionCacheName f.name]

/-- **A parameter hides a name of the body** only if its Lua name is that of the state or of the handle: the
other names are reserved. -/
theorem parameterName_mem_bodyNames_iff {f : Function} {name : Text} :
    parameterName name ∈ bodyNames f ↔ name = "lua_".toList ∨ name = functionCacheName f.name := by
  have hvariable : ∀ word ∈ (["fn".toList, "result".toList, "err".toList] : List Text),
      parameterName name ≠ word := by
    intro word hword h
    have hfixed : ∀ word ∈ (["fn".toList, "result".toList, "err".toList] : List Text),
        IsReserved word ∧ ¬reservedSuffix <:+ word := by decide +kernel
    obtain ⟨hreserved, hsuffix⟩ := hfixed word hword
    exact ((parameterName_eq_iff_of_not_suffix hsuffix).1 h).2 hreserved
  have hstate : parameterName name = "lua_".toList ↔ name = "lua_".toList := by
    rw [parameterName_eq_iff_of_not_suffix (by decide)]
    exact and_iff_left (not_isReserved_underscore "lua".toList)
  have hcache : parameterName name = functionCacheName f.name ↔ name = functionCacheName f.name := by
    -- The name of the handle ends in an underscore, as neither the longer names nor reserved words do.
    have hsuffix : ¬reservedSuffix <:+ functionCacheName f.name := by
      rintro ⟨w, hw⟩
      have hlast : (w ++ "_lu".toList ++ ['a']).getLast? =
          ("cached_fn_".toList ++ sanitize f.name ++ ['_']).getLast? := by
        rw [List.append_assoc]
        exact congrArg List.getLast? hw
      rw [List.getLast?_concat, List.getLast?_concat] at hlast
      exact absurd hlast (by decide)
    rw [parameterName_eq_iff_of_not_suffix hsuffix]
    exact and_iff_left (not_isReserved_underscore _)
  simp only [bodyNames, List.mem_cons, List.not_mem_nil, or_false, hstate, hcache]
  constructor
  · rintro (h | h | h | h)
    · exact absurd h (hvariable _ (by simp))
    · exact absurd h (hvariable _ (by simp))
    · exact absurd h (hvariable _ (by simp))
    · exact h
  · exact fun h => .inr (.inr (.inr h))

/-! ## §5 All parameters of a method -/

/-- The method for a function that the class declares stands in the class. -/
theorem methodLines_within {r : ParseResult} {f : Function}
    (hf : .function f ∈ (HeaderClass.script r).declared) :
    indent (methodLines f) <:+: scriptClassLines (.ofResult r) := by
  obtain ⟨before, after, hsplit⟩ := List.append_of_mem hf
  have haccessors : methodLines f <:+:
      (HeaderClass.script r).accessors.flatMap (accessorLines .state) := by
    refine ⟨(before.map Accessor.ofMember).flatMap (accessorLines .state),
      (after.map Accessor.ofMember).flatMap (accessorLines .state), ?_⟩
    simp [HeaderClass.accessors, hsplit, Accessor.ofMember, accessorLines]
  have hpublic : methodLines f <:+: (HeaderClass.script r).publicLines := by
    refine haccessors.trans ⟨_, _, rfl⟩
  have hlines : indent (HeaderClass.script r).publicLines <:+: (HeaderClass.script r).lines := by
    rw [HeaderClass.lines_eq]
    simp only [List.append_assoc]
    apply List.infix_append'
  exact (hpublic.map indentLine).trans hlines

/-- **What the parameters of a method are called**, for the function of any source that the class for the
script declares. The method stands in the header, and its parameters are those of the function, each under
its Lua name unless that is reserved. So they are identifiers as far as the Lua names are; distinct Lua names
stay distinct unless one is a reserved name and another one the same with `_lua` behind it; and they are no
names of the body, unless a Lua name is that of the state or of the handle. -/
theorem parameters_of_method {source fileName : Text} {f : Function}
    (hf : .function f ∈ (HeaderClass.script (parse source fileName)).declared) :
    indent (methodLines f) <:+: scriptClassLines (.ofResult (parse source fileName)) ∧
    declaredParameters (methodLines f) = f.parameters.map (fun p => parameterName p.name) ∧
    (∀ p ∈ f.parameters, isIdentifier (parameterName p.name) = isIdentifier p.name) ∧
    ((f.parameters.map Parameter.name).Nodup →
      ((declaredParameters (methodLines f)).Nodup ↔
        ∀ p ∈ f.parameters, IsReserved p.name → ∀ q ∈ f.parameters,
          q.name ≠ p.name ++ reservedSuffix)) ∧
    ∀ p ∈ f.parameters, parameterName p.name ∈ bodyNames f ↔
      p.name = "lua_".toList ∨ p.name = functionCacheName f.name := by
  -- Functions and variables are claimed in one list, but only functions are declared as functions.
  have hmem : f ∈ (parse source fileName).functions := by
    rcases List.mem_append.1 (mem_of_mem_claimed hf) with h | h
    · obtain ⟨g, hg, heq⟩ := List.mem_map.1 (mem_of_mem_exposed h)
      cases heq
      exact hg
    · obtain ⟨g, -, heq⟩ := List.mem_map.1 (mem_of_mem_exposed h)
      cases heq
  have hpieces := isPiece_of_mem_functions hmem
  have hname := (name_of_claimed hf List.mem_cons_self).1
  have hdeclared := declaredParameters_methodLines hname hpieces
  refine ⟨methodLines_within hf, hdeclared, ?_, ?_, ?_⟩
  · exact fun p hp => isIdentifier_parameterName (hpieces p hp).ne_nil
  · intro hdistinct
    have hnodup := nodup_map_parameterName_iff hdistinct
    rw [List.map_map] at hnodup
    rw [hdeclared]
    refine hnodup.trans ?_
    simp [List.mem_map]
  · exact fun p _ => parameterName_mem_bodyNames_iff

/-- The function that `function spawn(class, x) end` declares. -/
def spawn : Function :=
  { name := "spawn".toList, parameters := [{ name := "class".toList }, { name := ['x'] }] }

/-- A parameter with a reserved name gets another one, which is not the one of the other parameter. -/
theorem parameters_of_spawn :
    .function spawn ∈ (HeaderClass.script (parse "function spawn(class, x) end".toList [])).declared ∧
      declaredParameters (methodLines spawn) = ["class_lua".toList, ['x']] ∧
      (declaredParameters (methodLines spawn)).Nodup := by
  have hf : .function spawn ∈
      (HeaderClass.script (parse "function spawn(class, x) end".toList [])).declared :=
    List.mem_singleton_self _
  obtain ⟨-, hdeclared, -, hdistinct, -⟩ := parameters_of_method hf
  exact ⟨hf, hdeclared.trans (by decide), (hdistinct (by decide)).2 (by decide)⟩

/-- The parameters of a method can be used: they are identifiers, distinct if the Lua names are, and no names
that its body uses. -/
structure UsableParameters (f : Function) : Prop where
  identifiers : ∀ name ∈ declaredParameters (methodLines f), isIdentifier name = true
  distinct : (f.parameters.map Parameter.name).Nodup → (declaredParameters (methodLines f)).Nodup
  fresh : ∀ name ∈ declaredParameters (methodLines f), name ∉ bodyNames f

/-- The function that `function f(lua_) end` declares. -/
def hidesState : Function := { name := ['f'], parameters := [{ name := "lua_".toList }] }

/-- **Parameters cannot always be used**: one hides the state of the interpreter, from which the body takes
the function. -/
theorem not_all_parameters_usable :
    ¬∀ (source fileName : Text) (f : Function),
      .function f ∈ (HeaderClass.script (parse source fileName)).declared → UsableParameters f := by
  intro h
  have husable := h "function f(lua_) end".toList [] hidesState (List.mem_singleton_self _)
  have hpieces : ∀ p ∈ hidesState.parameters, IsPiece p.name :=
    @isPiece_of_mem_functions "function f(lua_) end".toList [] hidesState (List.mem_singleton_self _)
  have hname : isIdentifier (pascalCase hidesState.name) = true := by decide
  have hdeclared := declaredParameters_methodLines hname hpieces
  apply husable.fresh "lua_".toList
  · rw [hdeclared]
    decide
  · decide

end LuaAccessors.Cpp
