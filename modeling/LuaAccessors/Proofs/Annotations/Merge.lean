import LuaAccessors.Proofs.Annotations
import LuaAccessors.Proofs.Text.Dictionary

/-!
# Blocks of directives, one behind the other

What two blocks of directives declare together is what each of them declares, and the second one wins where they
declare a type for the same subject. So only the last directive for a subject counts, and it does not matter how
directives of different kinds stand among each other.

- `Annotations.merge`, `typeOf?_merge`: two blocks in one;
- `ofDirectives_append`: two blocks, one behind the other;
- `LastReads`, `typeOf?_eq_some_iff`: the line that a declared type comes from;
- `ofKind`, `ofDirectives_congr`: the directives of each kind decide;
- `merged_blocks`: all of it together.
-/

namespace LuaAccessors

/-! ## §1 Kinds of directives -/

namespace Directive

/-- The kinds of directives, one for each keyword. -/
inductive Kind where
  | declaredType
  | returnType
  | parameterType
  | fieldType
  deriving Repr, DecidableEq

/-- The kind of a directive. -/
def kind : Directive → Kind
  | .declaredType _ => .declaredType
  | .returnType _ => .returnType
  | .parameterType _ _ => .parameterType
  | .fieldType _ _ => .fieldType

end Directive

namespace Annotations

/-! ## §2 Merging

Two blocks are merged subject by subject. Where both have something to say about one, the second block wins.
-/

/-- What two blocks declare together, where the second one wins. -/
def merge (a b : Annotations) : Annotations where
  declaredType := b.declaredType.or a.declaredType
  returnType := b.returnType.or a.returnType
  parameterTypes := a.parameterTypes.merge b.parameterTypes
  fieldTypes := a.fieldTypes.merge b.fieldTypes

/-- No name has two types. -/
structure Distinct (a : Annotations) : Prop where
  parameters : (a.parameterTypes.map Prod.fst).Nodup
  fields : (a.fieldTypes.map Prod.fst).Nodup

theorem Distinct.add {a : Annotations} (h : a.Distinct) (x : Directive) : (a.add x).Distinct := by
  cases x with
  | declaredType type => exact ⟨h.parameters, h.fields⟩
  | returnType type => exact ⟨h.parameters, h.fields⟩
  | parameterType name type => exact ⟨Dictionary.nodup_keys_put h.parameters name type, h.fields⟩
  | fieldType name type => exact ⟨h.parameters, Dictionary.nodup_keys_put h.fields name type⟩

theorem distinct_ofDirectives (lines : List Text) : (ofDirectives lines).Distinct := by
  unfold ofDirectives
  induction lines.filterMap Directive.ofText? using List.reverseRecOn with
  | nil => exact ⟨List.nodup_nil, List.nodup_nil⟩
  | append_singleton directives x ih =>
    rw [List.foldl_concat]
    exact ih.add x

theorem merge_empty (a : Annotations) : a.merge {} = a := rfl

/-- **One more directive** may be added to the second block or to both of them together. -/
theorem merge_add {b : Annotations} (hb : b.Distinct) (a : Annotations) (x : Directive) :
    a.merge (b.add x) = (a.merge b).add x := by
  cases x with
  | declaredType type => rfl
  | returnType type => rfl
  | parameterType name type => simp only [merge, add, Dictionary.merge_put hb.parameters]
  | fieldType name type => simp only [merge, add, Dictionary.merge_put hb.fields]

/-- A type is looked for in the second block first. -/
theorem typeOf?_merge {b : Annotations} (hb : b.Distinct) (a : Annotations) (subject : Subject) :
    (a.merge b).typeOf? subject = (b.typeOf? subject).or (a.typeOf? subject) := by
  cases subject with
  | global => rfl
  | result => rfl
  | parameter name => exact Dictionary.get?_merge hb.parameters a.parameterTypes name
  | field name => exact Dictionary.get?_merge hb.fields a.fieldTypes name

/-- **Two blocks, one behind the other**, declare what they declare together. -/
theorem ofDirectives_append (a b : List Text) :
    ofDirectives (a ++ b) = (ofDirectives a).merge (ofDirectives b) := by
  induction b using List.reverseRecOn with
  | nil => rw [List.append_nil]; exact (merge_empty _).symm
  | append_singleton b line ih =>
    rw [← List.append_assoc, ofDirectives_concat, ofDirectives_concat, ih]
    -- A line that is no directive changes neither side.
    cases Directive.ofText? line with
    | none => rfl
    | some x => exact (merge_add (distinct_ofDirectives b) _ x).symm

/-! ## §3 The last directive for a subject -/

/-- The last line of a block that can be read as a directive for a subject declares a type for it. -/
def LastReads (lines : List Text) (subject : Subject) (type : Text) : Prop :=
  ∃ before line after, ∃ x : Directive, lines = before ++ line :: after ∧ x.Reads line ∧
    x.subject = subject ∧ x.type = type ∧ ∀ l ∈ after, ∀ y : Directive, y.Reads l → y.subject ≠ subject

/-- **Only the last directive for a subject counts.** -/
theorem typeOf?_eq_some_iff {lines : List Text} {subject : Subject} {type : Text} :
    (ofDirectives lines).typeOf? subject = some type ↔ LastReads lines subject type := by
  constructor
  · intro h
    obtain ⟨x, rfl, rfl⟩ := Directive.exists_of_subject subject type
    obtain ⟨before, line, after, rfl, hline, hafter⟩ := exists_last_directive h
    refine ⟨before, line, after, x, rfl, Directive.ofText?_eq_some_iff.1 hline, rfl, rfl, ?_⟩
    intro l hl y hy
    exact hafter l hl y (Directive.ofText?_eq_some_iff.2 hy)
  · rintro ⟨before, line, after, x, rfl, hline, rfl, rfl, hafter⟩
    -- The lines behind the last one for the subject declare nothing for it.
    have hnone : (ofDirectives after).typeOf? x.subject = none := by
      cases htype : (ofDirectives after).typeOf? x.subject with
      | none => rfl
      | some type =>
        obtain ⟨y, hsubject, rfl⟩ := Directive.exists_of_subject x.subject type
        rw [← hsubject] at htype
        obtain ⟨front, l, behind, rfl, hl, -⟩ := exists_last_directive htype
        exact absurd hsubject (hafter l (by simp) y (Directive.ofText?_eq_some_iff.1 hl))
    have hfront : (ofDirectives (before ++ [line])).typeOf? x.subject = some x.type := by
      rw [ofDirectives_concat, Directive.ofText?_eq_some_iff.2 hline]
      simp only [typeOf?_add, if_pos]
    rw [List.append_cons, ofDirectives_append, typeOf?_merge (distinct_ofDirectives after), hnone, hfront]
    rfl

/-! ## §4 Directives of one kind

Directives of different kinds have different subjects, so a block can be read kind by kind.
-/

/-- The directives of one kind in a block, in their order. -/
def ofKind (kind : Directive.Kind) (lines : List Text) : List Directive :=
  (lines.filterMap Directive.ofText?).filter fun x => x.kind = kind

/-- What directives of one kind declare. -/
def only (kind : Directive.Kind) (a : Annotations) : Annotations :=
  match kind with
  | .declaredType => { declaredType := a.declaredType }
  | .returnType => { returnType := a.returnType }
  | .parameterType => { parameterTypes := a.parameterTypes }
  | .fieldType => { fieldTypes := a.fieldTypes }

theorem ext_only {a b : Annotations} (h : ∀ kind, a.only kind = b.only kind) : a = b := by
  have hdeclared := congrArg declaredType (h .declaredType)
  have hreturn := congrArg returnType (h .returnType)
  have hparameters := congrArg parameterTypes (h .parameterType)
  have hfields := congrArg fieldTypes (h .fieldType)
  cases a
  cases b
  simp only [only] at hdeclared hreturn hparameters hfields
  rw [hdeclared, hreturn, hparameters, hfields]

/-- A directive changes nothing that another kind of directives declares. -/
theorem only_add (kind : Directive.Kind) (a : Annotations) (x : Directive) :
    (a.add x).only kind = if x.kind = kind then (a.only kind).add x else a.only kind := by
  cases kind <;> cases x <;> rfl

/-- What directives of one kind declare is decided by these directives. -/
theorem only_ofDirectives (kind : Directive.Kind) (lines : List Text) :
    (ofDirectives lines).only kind = (ofKind kind lines).foldl add {} := by
  unfold ofDirectives ofKind
  induction lines.filterMap Directive.ofText? using List.reverseRecOn with
  | nil => cases kind <;> rfl
  | append_singleton directives x ih =>
    rw [List.foldl_concat, only_add, ih, List.filter_append]
    by_cases hkind : x.kind = kind
    · rw [if_pos hkind, List.filter_cons_of_pos (by simpa using hkind), List.filter_nil, List.foldl_concat]
    · rw [if_neg hkind, List.filter_cons_of_neg (by simpa using hkind), List.filter_nil, List.append_nil]

/-- **The order of different kinds does not matter.** Blocks with the same directives of each kind declare the
same types. -/
theorem ofDirectives_congr {lines lines' : List Text} (h : ∀ kind, ofKind kind lines = ofKind kind lines') :
    ofDirectives lines = ofDirectives lines' := by
  apply ext_only
  intro kind
  rw [only_ofDirectives, only_ofDirectives, h kind]

/-! ## §5 Together -/

/-- **Blocks merge, and the later one wins.** A type is declared by the later block if that declares one for the
subject, and else by the earlier one; within a block it is declared by the last line that can be read as a
directive for the subject; and how directives of different kinds stand among each other changes nothing. -/
theorem merged_blocks (a b : List Text) :
    ofDirectives (a ++ b) = (ofDirectives a).merge (ofDirectives b) ∧
      (∀ subject, (ofDirectives (a ++ b)).typeOf? subject =
        ((ofDirectives b).typeOf? subject).or ((ofDirectives a).typeOf? subject)) ∧
      (∀ subject type, (ofDirectives a).typeOf? subject = some type ↔ LastReads a subject type) ∧
      ∀ lines, (∀ kind, ofKind kind lines = ofKind kind a) → ofDirectives lines = ofDirectives a := by
  refine ⟨ofDirectives_append a b, fun subject => ?_, fun subject type => typeOf?_eq_some_iff, ?_⟩
  · rw [ofDirectives_append, typeOf?_merge (distinct_ofDirectives b)]
  · exact fun lines hlines => ofDirectives_congr hlines

/-- Two directives for a parameter, which is optional in the first one, and a third one between them. -/
def parameterTwice : List Text :=
  ["---@param x? number".toList, "---@return string".toList, "---@param x boolean".toList]

/-- The same with the third one in front. -/
def returnFirst : List Text :=
  ["---@return string".toList, "---@param x? number".toList, "---@param x boolean".toList]

theorem returnFirst_declares : (∀ kind, ofKind kind returnFirst = ofKind kind parameterTwice) ∧
    ofDirectives returnFirst = ofDirectives parameterTwice := by
  have hkinds : ∀ kind, ofKind kind returnFirst = ofKind kind parameterTwice := by
    intro kind
    cases kind <;> decide
  exact ⟨hkinds, (merged_blocks parameterTwice []).2.2.2 returnFirst hkinds⟩

end Annotations

end LuaAccessors
