import LuaAccessors.Annotations
import LuaAccessors.Proofs.Text.Strip
import Mathlib.Data.List.Induction
import Mathlib.Data.List.Infix

/-!
# What a block of directives declares

A directive declares a type for a subject: the variable, the result, a parameter or a table field. A block
of directives is a map from subjects to types, in which the last directive for a subject counts.

- `Directive.subject`, `Directive.type`: what a directive says;
- `Directive.Reads`, `Directive.ofText?_eq_some_iff`: the lines that are read as a directive;
- `Annotations.typeOf?`: the view of a block as a map;
- `exists_last_directive`: a declared type stands in the last directive for its subject;
- `ne_nil_of_typeOf?`: a declared type is never empty.
-/

namespace LuaAccessors

/-! ## §1 Subjects -/

/-- What a directive declares a type for. -/
inductive Subject where
  | global
  | result
  | parameter (name : Text)
  | field (name : Text)
  deriving Repr, DecidableEq

namespace Directive

/-- What the directive declares a type for. -/
def subject : Directive → Subject
  | .declaredType _ => .global
  | .returnType _ => .result
  | .parameterType name _ => .parameter name
  | .fieldType name _ => .field name

/-- The type that the directive declares. -/
def type : Directive → Text
  | .declaredType t => t
  | .returnType t => t
  | .parameterType _ t => t
  | .fieldType _ t => t

/-- A directive is its subject with its type. -/
theorem ext_iff_subject {x y : Directive} : x = y ↔ x.subject = y.subject ∧ x.type = y.type := by
  cases x <;> cases y <;> simp [subject, type]

theorem exists_of_subject (s : Subject) (t : Text) : ∃ x : Directive, x.subject = s ∧ x.type = t := by
  cases s with
  | global => exact ⟨.declaredType t, rfl, rfl⟩
  | result => exact ⟨.returnType t, rfl, rfl⟩
  | parameter name => exact ⟨.parameterType name t, rfl, rfl⟩
  | field name => exact ⟨.fieldType name t, rfl, rfl⟩

end Directive

/-! ## §2 Reading a line

A line is cut into words at its blanks. The first word is the keyword, and what the others mean depends on it.
-/

/-- A text that starts with blanks and a word, which a blank or the end of the text ends. -/
inductive ReadsWord : Text → Text → Text → Prop where
  | intro {blanks word rest : Text} (hblanks : Text.AllBlank blanks) (hsome : blanks ≠ []) (hne : word ≠ [])
      (hword : ∀ c ∈ word, isBlank c = false) (hrest : ∀ c ∈ rest.head?, isBlank c = true) :
      ReadsWord (blanks ++ (word ++ rest)) word rest

theorem nextWord?_eq_some_iff {t word rest : Text} :
    nextWord? t = some (word, rest) ↔ ReadsWord t word rest := by
  constructor
  · intro h
    cases t with
    | nil => cases h
    | cons c t =>
      simp only [nextWord?] at h
      split at h
      case isFalse => cases h
      rename_i hc
      obtain ⟨hne, hword⟩ := Option.ite_none_left_eq_some.1 h
      obtain ⟨rfl, rfl⟩ := Prod.mk.inj (Option.some.inj hword)
      -- A cut is a decomposition: the blanks, the word up to the next blank, and the rest from there on.
      have hblanks : Text.AllBlank (c :: t.takeWhile isBlank) :=
        Text.allBlank_cons.2 ⟨hc, Text.allBlank_takeWhile t⟩
      have hbehind : ((t.dropWhile isBlank).takeWhile (!isBlank ·)) ++
          (t.dropWhile isBlank).dropWhile (!isBlank ·) = t.dropWhile isBlank :=
        List.takeWhile_append_dropWhile
      -- The rest is dropped by the length of the word, not by looking for the blank again.
      have hdrop : (t.dropWhile isBlank).drop ((t.dropWhile isBlank).takeWhile (!isBlank ·)).length =
          (t.dropWhile isBlank).dropWhile (!isBlank ·) := by
        conv_lhs => rw [← hbehind]
        exact List.drop_left' (by rw [hbehind])
      have ht : c :: t = (c :: t.takeWhile isBlank) ++ ((t.dropWhile isBlank).takeWhile (!isBlank ·) ++
          (t.dropWhile isBlank).dropWhile (!isBlank ·)) := by
        rw [hbehind, List.cons_append, List.takeWhile_append_dropWhile]
      rw [hdrop, ht]
      refine .intro hblanks (by simp) (by simpa using hne) (fun d hd => ?_) (fun d hd => ?_)
      · simpa using List.mem_takeWhile_imp hd
      · -- What stopped the word is a blank.
        have hhead := List.head?_dropWhile_not (!isBlank ·) (t.dropWhile isBlank)
        rw [Option.mem_def.1 hd] at hhead
        simpa using hhead
  · rintro ⟨hblanks, hsome, hne, hword, hrest⟩
    rename_i blanks
    obtain ⟨b, blanks, rfl⟩ := List.exists_cons_of_ne_nil hsome
    obtain ⟨hb, hblanks⟩ := Text.allBlank_cons.1 hblanks
    -- A word has a first character, so the blanks in front of it end there.
    have hhead : ∀ c ∈ (word ++ rest).head?, isBlank c = false := by
      obtain ⟨c, word, rfl⟩ := List.exists_cons_of_ne_nil hne
      intro d hd
      obtain rfl := Option.some.inj hd
      exact hword c List.mem_cons_self
    -- And the word ends where the rest starts.
    have hstop : rest.takeWhile (!isBlank ·) = [] := by
      cases rest with
      | nil => rfl
      | cons c rest => simp [hrest c rfl]
    have htake : (word ++ rest).takeWhile (!isBlank ·) = word := by
      rw [List.takeWhile_append_of_pos (fun c hc => by simp [hword c hc]), hstop, List.append_nil]
    have hdrop : (blanks ++ (word ++ rest)).dropWhile isBlank = word ++ rest := by
      rw [List.dropWhile_append_of_pos hblanks, Text.dropWhile_eq_self_of_head hhead]
    simp [nextWord?, hb, hdrop, htake, hne]

/-- A line of a keyword and a type. What follows the type is free. -/
def ReadsType (keyword t type : Text) : Prop :=
  ∃ behind rest, t = keyword ++ behind ∧ ReadsWord behind type rest

/-- A line of a keyword, a name and a type. Question marks behind the name do not belong to it. -/
def ReadsNamedType (keyword t name type : Text) : Prop :=
  ∃ behind marks rest rest', t = keyword ++ behind ∧
    ReadsWord behind (name ++ List.replicate marks '?') rest ∧ name.getLast? ≠ some '?' ∧
    ReadsWord rest type rest'

theorem typeDirective?_eq_some_iff {keyword t : Text} {directive : Text → Directive} {x : Directive} :
    typeDirective? keyword t directive = some x ↔ ∃ type, ReadsType keyword t type ∧ x = directive type := by
  simp only [typeDirective?, Option.bind_eq_bind, Option.bind_eq_some_iff,
    List.isPrefixOf?_eq_some_iff_append_eq, Prod.exists, nextWord?_eq_some_iff]
  constructor
  · rintro ⟨behind, hline, type, rest, hword, hx⟩
    exact ⟨type, ⟨behind, rest, hline.symm, hword⟩, (Option.some.inj hx).symm⟩
  · rintro ⟨type, ⟨behind, rest, hline, hword⟩, rfl⟩
    exact ⟨behind, hline.symm, type, rest, hword, rfl⟩

/-- A name is what stands in front of the question marks at its end. -/
theorem eq_requiredName_iff {word name : Text} :
    name = requiredName word ↔ ∃ marks, word = name ++ List.replicate marks '?' ∧ name.getLast? ≠ some '?' := by
  constructor
  · rintro rfl
    refine ⟨(word.reverse.takeWhile (· == '?')).length, ?_, ?_⟩
    · -- Read from the end, the marks come first.
      have hmarks : (word.reverse.takeWhile (· == '?')).reverse =
          List.replicate (word.reverse.takeWhile (· == '?')).length '?' := by
        rw [List.eq_replicate_iff, List.length_reverse]
        exact ⟨rfl, fun c hc => by simpa using List.mem_takeWhile_imp (List.mem_reverse.1 hc)⟩
      rw [requiredName, Text.dropEndWhile, ← hmarks, ← List.reverse_append,
        List.takeWhile_append_dropWhile, List.reverse_reverse]
    · intro hlast
      have hhead := List.head?_dropWhile_not (· == '?') word.reverse
      rw [requiredName, Text.dropEndWhile, List.getLast?_reverse] at hlast
      simp [hlast] at hhead
  · rintro ⟨marks, rfl, hlast⟩
    -- Only the marks are dropped, since the name does not end in one.
    have hstop : name.reverse.dropWhile (· == '?') = name.reverse := by
      cases hname : name.reverse with
      | nil => rfl
      | cons c cs =>
        have hc : c ≠ '?' := by
          rintro rfl
          rw [← List.head?_reverse, hname] at hlast
          exact hlast rfl
        simp [hc]
    rw [requiredName, Text.dropEndWhile, List.reverse_append, List.reverse_replicate,
      List.dropWhile_append_of_pos (by simp), hstop, List.reverse_reverse]

theorem namedDirective?_eq_some_iff {keyword t : Text} {directive : Text → Text → Directive}
    {x : Directive} : namedDirective? keyword t directive = some x ↔
      ∃ name type, ReadsNamedType keyword t name type ∧ x = directive name type := by
  simp only [namedDirective?, Option.bind_eq_bind, Option.bind_eq_some_iff,
    List.isPrefixOf?_eq_some_iff_append_eq, Prod.exists, nextWord?_eq_some_iff]
  constructor
  · rintro ⟨behind, hline, word, rest, hword, type, rest', htype, hx⟩
    -- The marks behind the name are cut off, and all of them are: the name does not end in one.
    obtain ⟨marks, hmarks, hlast⟩ := eq_requiredName_iff.1 (@rfl _ (requiredName word))
    rw [hmarks] at hword
    exact ⟨_, type, ⟨behind, marks, rest, rest', hline.symm, hword, hlast, htype⟩,
      (Option.some.inj hx).symm⟩
  · rintro ⟨name, type, ⟨behind, marks, rest, rest', hline, hword, hlast, htype⟩, rfl⟩
    have hname : name = requiredName (name ++ List.replicate marks '?') :=
      eq_requiredName_iff.2 ⟨marks, rfl, hlast⟩
    exact ⟨behind, hline.symm, _, rest, hword, type, rest', htype, congrArg (fun n => some (directive n type)) hname.symm⟩

namespace Directive

/-- The ways to read a line as a directive. -/
def Reads (t : Text) : Directive → Prop
  | .parameterType name type => ReadsNamedType "---@param".toList t name type
  | .returnType type => ReadsType "---@return".toList t type
  | .declaredType type => ReadsType "---@type".toList t type
  | .fieldType name type => ReadsNamedType "---@field".toList t name type

/-- **A line can be read in one way at most.** It is read as the directive that it says, whichever of the four
shapes that has, since no keyword starts another one. -/
theorem ofText?_eq_some_iff {t : Text} {x : Directive} : ofText? t = some x ↔ x.Reads t := by
  simp only [ofText?, Option.or_eq_some_iff]
  constructor
  · -- Each reader returns a directive of its own shape, so trying them in order loses nothing.
    rintro (h | ⟨-, h | ⟨-, h | ⟨-, h⟩⟩⟩)
    · obtain ⟨name, type, hreads, rfl⟩ := namedDirective?_eq_some_iff.1 h
      exact hreads
    · obtain ⟨type, hreads, rfl⟩ := typeDirective?_eq_some_iff.1 h
      exact hreads
    · obtain ⟨type, hreads, rfl⟩ := typeDirective?_eq_some_iff.1 h
      exact hreads
    · obtain ⟨name, type, hreads, rfl⟩ := namedDirective?_eq_some_iff.1 h
      exact hreads
  · intro h
    -- For the other direction the shape of `x` says which reader succeeds; those before it fail on its keyword.
    cases x with
    | parameterType name type => exact .inl (namedDirective?_eq_some_iff.2 ⟨name, type, h, rfl⟩)
    | returnType type =>
      obtain ⟨behind, rest, rfl, hword⟩ := h
      exact .inr ⟨rfl, .inl (typeDirective?_eq_some_iff.2 ⟨type, ⟨behind, rest, rfl, hword⟩, rfl⟩)⟩
    | declaredType type =>
      obtain ⟨behind, rest, rfl, hword⟩ := h
      exact .inr ⟨rfl, .inr ⟨rfl, .inl (typeDirective?_eq_some_iff.2
        ⟨type, ⟨behind, rest, rfl, hword⟩, rfl⟩)⟩⟩
    | fieldType name type =>
      obtain ⟨behind, marks, rest, rest', rfl, hword⟩ := h
      exact .inr ⟨rfl, .inr ⟨rfl, .inr ⟨rfl, namedDirective?_eq_some_iff.2
        ⟨name, type, ⟨behind, marks, rest, rest', rfl, hword⟩, rfl⟩⟩⟩⟩

theorem ne_nil_of_readsWord {t word rest : Text} (h : ReadsWord t word rest) : word ≠ [] := by
  cases h
  assumption

/-- A directive declares a type that is not empty. -/
theorem type_ne_nil {t : Text} {x : Directive} (h : ofText? t = some x) : x.type ≠ [] := by
  have hreads := ofText?_eq_some_iff.1 h
  cases x with
  | declaredType type =>
    obtain ⟨_, _, _, htype⟩ := hreads
    exact ne_nil_of_readsWord htype
  | returnType type =>
    obtain ⟨_, _, _, htype⟩ := hreads
    exact ne_nil_of_readsWord htype
  | parameterType name type =>
    obtain ⟨_, _, _, _, _, _, _, htype⟩ := hreads
    exact ne_nil_of_readsWord htype
  | fieldType name type =>
    obtain ⟨_, _, _, _, _, _, _, htype⟩ := hreads
    exact ne_nil_of_readsWord htype

end Directive

/-! ## §3 The block as a map -/

namespace Annotations

/-- The type that is declared for a subject. -/
def typeOf? (a : Annotations) : Subject → Option Text
  | .global => a.declaredType
  | .result => a.returnType
  | .parameter name => a.parameterTypes.get? name
  | .field name => a.fieldTypes.get? name

/-- One more directive declares the type of its subject, and nothing else. -/
theorem typeOf?_add (a : Annotations) (x : Directive) (subject : Subject) :
    (a.add x).typeOf? subject = if subject = x.subject then some x.type else a.typeOf? subject := by
  cases x <;> cases subject <;>
    simp [add, typeOf?, Directive.subject, Directive.type, Dictionary.get?_put]

theorem typeOf?_empty (subject : Subject) : ({} : Annotations).typeOf? subject = none := by
  cases subject <;> rfl

/-- What one more directive line adds to a block. -/
theorem ofDirectives_concat (lines : List Text) (line : Text) :
    ofDirectives (lines ++ [line]) = match Directive.ofText? line with
      | some x => (ofDirectives lines).add x
      | none => ofDirectives lines := by
  unfold ofDirectives
  rw [List.filterMap_append, List.foldl_append]
  cases h : Directive.ofText? line <;> simp [h]

/-- **The last directive counts.** A type that a block declares stands in a line of the block, and no line
below it in the block declares a type for the same subject. -/
theorem exists_last_directive {lines : List Text} {x : Directive}
    (h : (ofDirectives lines).typeOf? x.subject = some x.type) :
    ∃ before line after, lines = before ++ line :: after ∧ Directive.ofText? line = some x ∧
      ∀ l ∈ after, ∀ y, Directive.ofText? l = some y → y.subject ≠ x.subject := by
  induction lines using List.reverseRecOn with
  | nil =>
    have hnone : (ofDirectives []).typeOf? x.subject = none := typeOf?_empty x.subject
    rw [hnone] at h
    cases h
  | append_singleton lines line ih =>
    rw [ofDirectives_concat] at h
    -- The line is the last one for the subject, or what counts is among the lines in front of it.
    by_cases hline : ∃ y, Directive.ofText? line = some y ∧ y.subject = x.subject
    · obtain ⟨y, hy, hsubject⟩ := hline
      rw [hy] at h
      simp only [typeOf?_add, hsubject, if_true] at h
      obtain rfl : y = x := Directive.ext_iff_subject.2 ⟨hsubject, Option.some.inj h⟩
      exact ⟨lines, line, [], rfl, hy, fun l hl => by cases hl⟩
    · have hfront : (ofDirectives lines).typeOf? x.subject = some x.type := by
        cases hy : Directive.ofText? line with
        | none => rwa [hy] at h
        | some y =>
          have hne : x.subject ≠ y.subject := fun heq => hline ⟨y, hy, heq.symm⟩
          rw [hy] at h
          simpa only [typeOf?_add, hne, if_false] using h
      obtain ⟨before, found, after, rfl, hfound, hafter⟩ := ih hfront
      refine ⟨before, found, after ++ [line], by simp, hfound, ?_⟩
      intro l hl y hy hsubject
      rcases List.mem_append.1 hl with hl | hl
      · exact hafter l hl y hy hsubject
      · obtain rfl := List.mem_singleton.1 hl
        exact hline ⟨y, hy, hsubject⟩

/-- A type that a block declares is not empty. -/
theorem ne_nil_of_typeOf? {lines : List Text} {subject : Subject} {t : Text}
    (h : (ofDirectives lines).typeOf? subject = some t) : t ≠ [] := by
  obtain ⟨x, rfl, rfl⟩ := Directive.exists_of_subject subject t
  obtain ⟨-, line, -, -, hline, -⟩ := exists_last_directive h
  exact Directive.type_ne_nil hline

end Annotations

end LuaAccessors
