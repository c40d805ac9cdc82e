import LuaAccessors.Proofs.Cpp.PrivateNames
import LuaAccessors.Proofs.Extraction.Names
import LuaAccessors.Proofs.TableLiteral.Keys

/-!
# Well-formed schemas

What a source says of a member is read by several rules: the kind of its value is inferred or annotated, its
fields are read only if it is a table, and the C++ type follows a table of its own. In every schema that is
extracted these rules agree, at the top level and in tables of any depth.

- `ParseResult.Holds`: the members of a schema at every depth;
- `Member.WellFormed`: one member whose kind, fields, annotated type and C++ type agree;
- `cppType_eq_table_iff`: the two tables of type names agree on tables;
- `isField_of_fromContent`, `isTopLevel_of_declaredMember?`: what is known of a field, and of a function or a
  variable;
- `parse_wellFormed`: all members of a schema.
-/

namespace LuaAccessors

open Lexis TableLiteral Cpp HeaderClass

/-! ## §1 Members at every depth -/

/-- The members of a schema: functions, variables, and the fields that a member owns. -/
inductive ParseResult.Holds (r : ParseResult) : Member → Prop where
  | top {m : Member} (h : m ∈ r.members) : Holds r m
  | field {m : Member} {x : Field} (hm : Holds r m) (hx : x ∈ m.fields) : Holds r (.field x)

/-- What is said of the value of a member in several places agrees. -/
structure Member.WellFormed (m : Member) : Prop where
  /-- Only tables own fields. -/
  isTable_of_fields : m.fields ≠ [] → m.valueType = .table
  /-- An annotated type decides the kind. -/
  valueType_eq : ∀ t, m.explicitType = some t → m.valueType = .ofTypeName (some t)
  /-- The C++ type is that of tables for tables, and for nothing else. -/
  cppType_iff :
    (CppType.ofValue m.valueType m.explicitType).text = "sol::table".toList ↔ m.valueType = .table

/-! ## §2 Kinds and types -/

theorem lookup_map {α β : Type} (f : α → β) (entries : List (Text × α)) (key : Text) :
    (entries.map fun e => (e.1, f e.2)).lookup key = (entries.lookup key).map f := by
  induction entries with
  | nil => rfl
  | cons e rest ih =>
    rw [List.map_cons, List.lookup_cons, List.lookup_cons]
    split
    · rfl
    · exact ih

/-- The two tables of annotated types name the same types, and tables alike. -/
theorem annotated_agree :
    ValueType.annotated.map (fun e => (e.1, e.2 == .table)) =
      CppType.annotated.map fun e => (e.1, e.2 == .table) := by decide

theorem ofTypeName_eq_table_iff (name : Text) :
    CppType.ofTypeName name = .table ↔ ValueType.ofTypeName (some name) = .table := by
  -- Two tables of names, one for kinds and one for C++ types. They agree on which names stand for tables.
  have hkinds := lookup_map (· == ValueType.table) ValueType.annotated name
  have htypes := lookup_map (· == CppType.table) CppType.annotated name
  rw [annotated_agree, htypes] at hkinds
  unfold CppType.ofTypeName ValueType.ofTypeName
  dsimp only
  cases hkind : ValueType.annotated.lookup name with
  -- A name that neither of them has is no table for either.
  | none =>
    rw [hkind] at hkinds
    rw [Option.map_eq_none_iff.1 hkinds]
    simp
  | some kind =>
    rw [hkind] at hkinds
    obtain ⟨type, htype, heq⟩ := Option.map_eq_some_iff.1 hkinds
    rw [htype]
    rwa [Bool.eq_iff_iff, beq_iff_eq, beq_iff_eq] at heq

theorem text_eq_table_iff (type : CppType) : type.text = "sol::table".toList ↔ type = .table := by
  cases type <;> decide

/-- **Inferred and annotated kinds** give the C++ type of tables to tables only. -/
theorem cppType_eq_table_iff {value : Text} {explicitType : Option Text}
    (hne : ∀ t, explicitType = some t → t ≠ []) :
    CppType.ofValue (resolveValueType value explicitType) explicitType = .table ↔
      resolveValueType value explicitType = .table := by
  cases explicitType with
  | none =>
    show CppType.ofValueType (inferValueType value) = .table ↔ inferValueType value = .table
    cases inferValueType value <;> decide
  | some t =>
    obtain ⟨c, name, rfl⟩ := List.exists_cons_of_ne_nil (hne t rfl)
    exact ofTypeName_eq_table_iff (c :: name)

theorem resolveValueType_some {value t : Text} (hne : t ≠ []) :
    resolveValueType value (some t) = .ofTypeName (some t) := by
  obtain ⟨c, name, rfl⟩ := List.exists_cons_of_ne_nil hne
  rfl

/-- A member whose kind is read off its value or its annotated type is well-formed if only tables own
fields. -/
theorem Member.wellFormed_of_resolve {m : Member} {value : Text}
    (hvalue : m.valueType = resolveValueType value m.explicitType)
    (hne : ∀ t, m.explicitType = some t → t ≠ [])
    (hfields : m.fields ≠ [] → m.valueType = .table) : m.WellFormed where
  isTable_of_fields := hfields
  valueType_eq := fun t ht => by
    rw [hvalue, ht]
    exact resolveValueType_some (hne t ht)
  cppType_iff := by
    rw [text_eq_table_iff, hvalue]
    exact cppType_eq_table_iff hne

theorem eq_function_of_ofTypeName {t : Text} (h : ValueType.ofTypeName (some t) = .function) :
    t = "function".toList := by
  -- Of the annotated names only one stands for functions.
  have hnames : ∀ e ∈ ValueType.annotated, e.2 = .function → e.1 = "function".toList := by decide
  unfold ValueType.ofTypeName at h
  dsimp only at h
  cases hkind : ValueType.annotated.lookup t with
  | none =>
    rw [hkind] at h
    cases h
  | some kind =>
    rw [hkind] at h
    obtain ⟨before, after, hentry, -⟩ := List.lookup_eq_some_iff.1 hkind
    apply hnames (t, kind) ?_ h
    rw [hentry]
    exact List.mem_append_right _ List.mem_cons_self

theorem startsWithKeyword_of_inferValueType {value : Text} (h : inferValueType value = .function) :
    startsWithKeyword functionKeyword value.strip = true := by
  unfold inferValueType at h
  dsimp only at h
  repeat' split at h
  all_goals first | assumption | cases h

/-- Only an annotation makes a function of a value that is no function literal. -/
theorem explicitType_of_function {value : Text} {explicitType : Option Text}
    (hne : ∀ t, explicitType = some t → t ≠ []) (htrimmed : Text.Trimmed value)
    (hkeyword : startsWithKeyword functionKeyword value = false)
    (h : resolveValueType value explicitType = .function) :
    explicitType = some "function".toList := by
  cases explicitType with
  | none =>
    have hstarts := @startsWithKeyword_of_inferValueType value h
    rw [Text.strip_eq_self htrimmed, hkeyword] at hstarts
    cases hstarts
  | some t =>
    rw [resolveValueType_some (hne t rfl)] at h
    rw [eq_function_of_ofTypeName h]

/-! ## §3 Fields -/

/-- A field comes from a keyed entry, and its own fields from the literal that the entry has for a value. -/
theorem exists_of_mem_parseFields {content : Text} {types : Dictionary Text} {x : Field}
    (h : x ∈ parseFields content types) :
    ∃ entry value, splitKeyed? entry = some (x.name, value) ∧
      x.valueType = resolveValueType value x.explicitType ∧ x.explicitType = types.get? x.name ∧
        (x.fields ≠ [] → x.valueType = .table ∧ x.fields = parseFields (trimOuterBraces value) []) := by
  rw [parseFields_eq_map] at h
  obtain ⟨⟨name, value⟩, hmem, rfl⟩ := List.mem_map.1 h
  obtain ⟨entry, -, hentry⟩ := List.mem_filterMap.1 hmem
  refine ⟨entry, value, hentry, rfl, rfl, fun hne => ?_⟩
  dsimp only [annotatedField] at hne ⊢
  split at hne
  · rename_i htable
    exact ⟨htable.1, if_pos htable⟩
  · exact absurd rfl hne

/-- The fields of a member are those in the content of a table, under types of which none is empty; fields of
fields have no types. -/
def FromContent (m : Member) : Prop :=
  m.fields ≠ [] → m.valueType = .table ∧ ∃ content types, m.fields = parseFields content types ∧
    (∀ name t, types.get? name = some t → t ≠ []) ∧ ∀ x, m = .field x → types = []

/-- What is known of a field of a member. -/
structure IsField (m : Member) (x : Field) : Prop where
  wellFormed : (Member.field x).WellFormed
  isKey : IsKey x.name
  untyped : ∀ y, m = .field y → x.explicitType = none
  fromContent : FromContent (.field x)

theorem isField_of_fromContent {m : Member} (hm : FromContent m) {x : Field} (hx : x ∈ m.fields) :
    IsField m x := by
  obtain ⟨-, content, types, hfields, htypes, hinner⟩ := hm (List.ne_nil_of_mem hx)
  rw [hfields] at hx
  obtain ⟨entry, value, hentry, hvalue, hexplicit, hown⟩ := exists_of_mem_parseFields hx
  constructor
  case wellFormed =>
    apply @Member.wellFormed_of_resolve (.field x) value hvalue
    · intro t ht
      exact htypes x.name t (hexplicit.symm.trans ht)
    · exact fun hne => (hown hne).1
  case isKey => exact isKey_of_splitKeyed? hentry
  case untyped =>
    intro y hy
    rw [hexplicit, hinner y hy]
    rfl
  -- A field that is a table has its own content, that of its value. No directive names its fields.
  case fromContent =>
    intro hne
    obtain ⟨htable, hown⟩ := hown hne
    refine ⟨htable, trimOuterBraces value, [], hown, fun _ _ ht => ?_, fun _ _ => rfl⟩
    cases ht

/-! ## §4 Members of a schema

The invariant has two halves. One is what a maintainer reads off a member, and the other one says where its
fields come from. The second half is what carries the first one from a member to its fields.
-/

/-- What is known of a function or a variable. -/
structure IsTopLevel (m : Member) : Prop where
  wellFormed : m.WellFormed
  isLocal_eq : m.isLocal = false
  named : ∃ i : Identifier, m.name = i.text
  annotated : ∀ g, m = .global g → g.valueType = .function → g.explicitType = some "function".toList
  fromContent : FromContent m

theorem isTopLevel_of_declaredMember? {line : Text} {lines : List Text}
    {following : List ScannedLine} {m : Member}
    (h : declaredMember? line (.ofDirectives lines) following = some m) : IsTopLevel m := by
  have hname := (names_of_declaredMember? h).1
  -- A type that a directive declares is never empty.
  have hne : ∀ subject t, (Annotations.ofDirectives lines).typeOf? subject = some t → t ≠ [] :=
    fun _ _ => Annotations.ne_nil_of_typeOf?
  -- A member is a function, which owns no fields, or the variable of an assignment.
  rcases cases_declaredMember? h with ⟨name, parameterNames, -, rfl⟩ | ⟨name, value, g, hline, hg, rfl⟩
  · constructor
    case wellFormed =>
      have htype : (CppType.ofValue .function none).text = "sol::table".toList ↔
          ValueType.function = .table := by decide
      exact ⟨fun h => absurd rfl h, (by rintro t ⟨⟩), htype⟩
    case isLocal_eq => rfl
    case named => exact hname
    case annotated => rintro g ⟨⟩
    case fromContent => exact fun h => absurd rfl h
  · obtain ⟨hkeyword, fields, rfl, hfields⟩ := exists_of_buildGlobal? hg
    constructor
    case wellFormed =>
      exact Member.wellFormed_of_resolve rfl (hne .global) fun h => (hfields h).1
    case isLocal_eq => rfl
    case named => exact hname
    case annotated =>
      rintro g ⟨⟩ hfunction
      exact explicitType_of_function (hne .global) (names_of_assignment hline).2 hkeyword hfunction
    case fromContent =>
      intro h
      obtain ⟨htable, hparsed⟩ := hfields h
      exact ⟨htable, _, _, hparsed, fun name => hne (.field name), by rintro x ⟨⟩⟩

theorem isTopLevel_of_mem_members {source fileName : Text} {m : Member}
    (hm : m ∈ (parse source fileName).members) : IsTopLevel m := by
  obtain ⟨s, -, -, hmember, -⟩ := codeBetween_of_carries source fileName hm
  exact isTopLevel_of_declaredMember? hmember

/-- A member at any depth is well-formed, and so are its fields. -/
theorem wellFormed_of_holds {source fileName : Text} {m : Member}
    (hm : (parse source fileName).Holds m) : m.WellFormed ∧ FromContent m := by
  induction hm with
  | top h =>
    have htop := isTopLevel_of_mem_members h
    exact ⟨htop.wellFormed, htop.fromContent⟩
  | field _ hx ih =>
    have hfield := isField_of_fromContent ih.2 hx
    exact ⟨hfield.wellFormed, hfield.fromContent⟩

/-! ## §5 Members that classes declare -/

/-- What a class of a header declares is in the schema, at some depth. -/
theorem holds_of_mem_declared {r : ParseResult} {c : HeaderClass} (hc : c ∈ classes r) {m : Member}
    (hm : m ∈ c.declared) : r.Holds m := by
  apply HeaderClass.forall_withInner (P := fun c => ∀ m ∈ c.declared, r.Holds m) ?_ (.script r)
    ?_ c hc m hm
  · intro c hdeclared d hd m hm
    obtain ⟨owner, howner, -, rfl⟩ := mem_tables.1 hd
    -- The class for a table declares fields of the table.
    obtain ⟨x, hx, rfl⟩ := List.mem_map.1 (mem_of_mem_exposed (mem_of_mem_claimed hm))
    exact .field (hdeclared owner howner) hx
  · exact fun m hm => .top (mem_members_of_mem_declared hm)

/-- A value that is read and written through a pair of methods is no table, and its type is that of the
value. -/
theorem of_ofMember_eq_property {m : Member} {luaName : Text} {type : CppType}
    (h : Accessor.ofMember m = .property luaName type) :
    m.valueType ≠ .table ∧ type = .ofValue m.valueType m.explicitType := by
  have htable : ∀ m : Member, m.isTable = true ↔ m.valueType = .table := fun m => beq_iff_eq
  cases m with
  -- Functions are methods. Of the others the tables come with their class and all else as a property.
  | function f => cases h
  | global g =>
    simp only [Accessor.ofMember, tableAccessor_eq []] at h
    split at h
    case isTrue => cases h
    rename_i hno
    rw [htable] at hno
    exact ⟨hno, (Accessor.property.inj h).2.symm⟩
  | field x =>
    simp only [Accessor.ofMember, tableAccessor_eq []] at h
    split at h
    case isTrue => cases h
    rename_i hno
    rw [htable] at hno
    exact ⟨hno, (Accessor.property.inj h).2.symm⟩

/-- **Every schema is well-formed.** Nothing keeps a source from being read. Functions and variables are not
local and are named by identifiers. A member of any depth owns fields only if it is a table, has the kind of
its annotated type if there is one, and has the C++ type of tables exactly if it is a table; a variable of the
kind of functions is annotated as one. Fields are named by keys, and those of fields have no annotated type.
No pair of methods reads and writes a value of the C++ type of tables. -/
theorem parse_wellFormed (source fileName : Text) :
    (parse source fileName).errors = [] ∧
      (∀ m ∈ (parse source fileName).members, m.isLocal = false ∧ ∃ i : Identifier, m.name = i.text) ∧
      (∀ m, (parse source fileName).Holds m → m.WellFormed) ∧
      (∀ g ∈ (parse source fileName).globals, g.valueType = .function →
        g.explicitType = some "function".toList) ∧
      (∀ m x, (parse source fileName).Holds m → x ∈ m.fields →
        IsKey x.name ∧ ∀ y, m = .field y → x.explicitType = none) ∧
      ∀ c ∈ classes (parse source fileName), ∀ luaName type,
        .property luaName type ∈ c.accessors → type.text ≠ "sol::table".toList := by
  refine ⟨rfl, ?_, ?_, ?_, ?_, ?_⟩
  · intro m hm
    have htop := isTopLevel_of_mem_members hm
    exact ⟨htop.isLocal_eq, htop.named⟩
  · exact fun m hm => (wellFormed_of_holds hm).1
  · -- A value that is a function literal makes no variable, so the kind is from a directive.
    intro g hg hfunction
    have hmem : .global g ∈ (parse source fileName).members :=
      List.mem_append_right _ (List.mem_map_of_mem hg)
    exact (isTopLevel_of_mem_members hmem).annotated g rfl hfunction
  · intro m x hm hx
    have hfield := isField_of_fromContent (wellFormed_of_holds hm).2 hx
    exact ⟨hfield.isKey, hfield.untyped⟩
  · -- Every member that a class declares is one of the schema, where the type of tables is for tables only.
    intro c hc luaName type hmem
    obtain ⟨m, hm, hproperty⟩ := List.mem_map.1 hmem
    obtain ⟨hno, rfl⟩ := of_ofMember_eq_property hproperty
    have hwell := (wellFormed_of_holds (holds_of_mem_declared hc hm)).1
    exact fun htext => hno (hwell.cppType_iff.1 htext)

end LuaAccessors
