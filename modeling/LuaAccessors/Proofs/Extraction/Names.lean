import LuaAccessors.Proofs.Declaration.Shapes
import LuaAccessors.Proofs.Extraction.Provenance
import LuaAccessors.Proofs.TableLiteral.Laid

/-!
# Names in a schema

The names that a source declares at its top level are made of ASCII letters, digits and underscores, with no
digit in front. What stands between the parentheses of a function is taken as it is: a parameter has whatever name is left between
commas and blanks, a vararg included.

- `IsPiece`: what is known of the name of a parameter;
- `exists_identifier_of_mem_members`: the names of functions and variables;
- `isPiece_of_mem_functions`: the names of parameters.
-/

namespace LuaAccessors

open Lexis TableLiteral

/-! ## §1 Names on a line -/

/-- A piece of a parameter list: trimmed and not empty, without a comma or a closing parenthesis. -/
structure IsPiece (name : Text) : Prop where
  ne_nil : name ≠ []
  trimmed : Text.Trimmed name
  not_mem_comma : ',' ∉ name
  not_mem_parenthesis : ')' ∉ name

theorem isPiece_of_mem_splitParameters {t name : Text} (ht : ')' ∉ t)
    (h : name ∈ splitParameters t) : IsPiece name := by
  obtain ⟨hmem, hne⟩ := List.mem_filter.1 h
  obtain ⟨piece, hpiece, rfl⟩ := List.mem_map.1 hmem
  -- Its characters are those of the list, except the commas at which the list was cut.
  have hcut : ∀ c ∈ piece.strip, c ∈ t ∧ (c == ',') = false := fun c hc =>
    Text.mem_of_mem_splitWhere hpiece (Text.mem_of_mem_strip hc)
  constructor
  case ne_nil => simpa using hne
  case trimmed => exact Text.trimmed_strip piece
  case not_mem_comma =>
    intro hc
    have := (hcut _ hc).2
    simp at this
  case not_mem_parenthesis => exact fun hc => ht (hcut _ hc).1

/-- What a line declares as a function. -/
theorem names_of_function? {line name : Text} {parameterNames : List Text} {isLocal : Bool}
    (h : Declaration.function? line = some (.function name parameterNames isLocal)) :
    (∃ i : Identifier, name = i.text) ∧ ∀ p ∈ parameterNames, IsPiece p := by
  cases Declaration.function?_eq_some_iff.1 h with
  | intro i _ _ _ _ hparameters =>
    exact ⟨⟨i, rfl⟩, fun p hp => isPiece_of_mem_splitParameters hparameters hp⟩

/-- What a line declares as an assignment: no function, but a name in front of a trimmed value. -/
theorem exists_of_assignment? {line : Text} {d : Declaration} (h : Declaration.assignment? line = some d) :
    ∃ name value isLocal, d = .assignment name value isLocal ∧ (∃ i : Identifier, name = i.text) ∧
      Text.Trimmed value := by
  cases Declaration.assignment?_eq_some_iff.1 h with
  | intro i _ _ _ _ => exact ⟨_, _, _, rfl, ⟨i, rfl⟩, Text.trimmed_strip _⟩

/-- A line that declares a function has no other shape in front of it. -/
theorem function?_of_ofLine? {line name : Text} {parameterNames : List Text} {isLocal : Bool}
    (h : Declaration.ofLine? line = some (.function name parameterNames isLocal)) :
    Declaration.function? line = some (.function name parameterNames isLocal) := by
  rcases Option.or_eq_some_iff.1 h with hf | ⟨-, ha⟩
  · exact hf
  · obtain ⟨_, _, _, hd, -⟩ := exists_of_assignment? ha
    cases hd

theorem assignment?_of_ofLine? {line name value : Text} {isLocal : Bool}
    (h : Declaration.ofLine? line = some (.assignment name value isLocal)) :
    Declaration.assignment? line = some (.assignment name value isLocal) := by
  rcases Option.or_eq_some_iff.1 h with hf | ⟨-, ha⟩
  · exact absurd hf (function?_ne_assignment _ _ _ _)
  · exact ha

/-- A line that assigns has a name in front of its value, which is trimmed. -/
theorem names_of_assignment {line name value : Text} {isLocal : Bool}
    (h : Declaration.ofLine? line = some (.assignment name value isLocal)) :
    (∃ i : Identifier, name = i.text) ∧ Text.Trimmed value := by
  obtain ⟨_, _, _, hd, hname, hvalue⟩ := exists_of_assignment? (assignment?_of_ofLine? h)
  cases hd
  exact ⟨hname, hvalue⟩

/-! ## §2 Names of members -/

/-- The names that a member has from its line. -/
theorem names_of_declaredMember? {line : Text} {a : Annotations} {following : List ScannedLine}
    {m : Member} (h : declaredMember? line a following = some m) :
    (∃ i : Identifier, m.name = i.text) ∧
      ∀ f, m = .function f → ∀ p ∈ f.parameters, IsPiece p.name := by
  rcases cases_declaredMember? h with ⟨name, parameterNames, hline, rfl⟩ | ⟨name, value, g, hline, hg, rfl⟩
  · obtain ⟨hname, hparameters⟩ := names_of_function? (function?_of_ofLine? hline)
    refine ⟨hname, ?_⟩
    rintro f ⟨⟩ p hp
    obtain ⟨name, hmem, rfl⟩ := List.mem_map.1 hp
    exact hparameters name hmem
  · obtain ⟨-, fields, rfl, -⟩ := exists_of_buildGlobal? hg
    exact ⟨(names_of_assignment hline).1, by rintro f ⟨⟩⟩

/-- A member of a schema is declared on one of the lines. -/
theorem exists_declaredMember? {source fileName : Text} {m : Member}
    (hm : m ∈ (parse source fileName).members) :
    ∃ line a following, declaredMember? line a following = some m := by
  have hfound := mem_extractMembers_of_mem hm
  rw [extractMembers_scan] at hfound
  obtain ⟨s, -, hmember⟩ := List.mem_filterMap.1 hfound
  exact ⟨_, _, _, hmember⟩

/-- **The names of functions and variables** are identifiers of ASCII letters, digits and underscores. -/
theorem exists_identifier_of_mem_members {source fileName : Text} {m : Member}
    (hm : m ∈ (parse source fileName).members) : ∃ i : Identifier, m.name = i.text := by
  obtain ⟨line, a, following, h⟩ := exists_declaredMember? hm
  exact (names_of_declaredMember? h).1

theorem isNamePart_of_mem_members {source fileName : Text} {m : Member}
    (hm : m ∈ (parse source fileName).members) : ∀ c ∈ m.name, isNamePart c = true := by
  obtain ⟨i, hname⟩ := exists_identifier_of_mem_members hm
  intro c hc
  rw [hname] at hc
  exact isNamePart_of_mem_identifier hc

/-- **The names of parameters** are pieces between commas. -/
theorem isPiece_of_mem_functions {source fileName : Text} {f : Function}
    (hf : f ∈ (parse source fileName).functions) : ∀ p ∈ f.parameters, IsPiece p.name := by
  have hm : .function f ∈ (parse source fileName).members :=
    List.mem_append_left _ (List.mem_map_of_mem hf)
  obtain ⟨line, a, following, h⟩ := exists_declaredMember? hm
  exact (names_of_declaredMember? h).2 f rfl

end LuaAccessors
