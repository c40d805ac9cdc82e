import LuaAccessors.Proofs.Annotations
import LuaAccessors.Proofs.Extraction.Delivery

/-!
# Where the types of a member come from

A member carries types that directives above it declare. Each comes from the nearest directive for its
subject, and from there down to the member no line outside table literals holds code, with one exception: a
line that starts inside a block comment or a long string is passed over as a whole, and so is the code
behind the closing bracket.

- `Member.Carries`: the types that a member carries;
- `NearestDirective`: the directive that a type comes from;
- `codeBetween`: the lines with code between a directive and a member;
- `codeBetween_of_carries`: such lines start inside a comment or a string;
- `not_noCodeBetween`: there are such lines.
-/

namespace LuaAccessors

open Lexis TableLiteral

/-! ## §1 The types of a member -/

/-- The functions and the variables of a schema. -/
def ParseResult.members (r : ParseResult) : List Member :=
  r.functions.map .function ++ r.globals.map .global

/-- A type that a member carries, as the directive that declares it. -/
inductive Member.Carries : Member → Directive → Prop where
  | result {f : Function} {t : Text} (h : f.returnType = some t) :
      Carries (.function f) (.returnType t)
  | parameter {f : Function} {p : Parameter} {t : Text} (hp : p ∈ f.parameters)
      (h : p.explicitType = some t) : Carries (.function f) (.parameterType p.name t)
  | global {g : Global} {t : Text} (h : g.explicitType = some t) :
      Carries (.global g) (.declaredType t)
  | field {g : Global} {x : Field} {t : Text} (hx : x ∈ g.fields) (h : x.explicitType = some t) :
      Carries (.global g) (.fieldType x.name t)

/-- A field of a table literal has the type that is declared for its name. -/
theorem explicitType_of_mem_parseFields {content : Text} {types : Dictionary Text} {x : Field}
    (h : x ∈ parseFields content types) : x.explicitType = types.get? x.name := by
  rw [parseFields] at h
  obtain ⟨⟨⟨name, value⟩, _⟩, _, rfl⟩ := List.mem_map.1 h
  rfl

/-- A member carries the types that its annotations declare. -/
theorem typeOf?_of_carries {line : Text} {a : Annotations} {following : List ScannedLine}
    {m : Member} (hm : declaredMember? line a following = some m) {x : Directive}
    (hx : m.Carries x) : a.typeOf? x.subject = some x.type := by
  rcases cases_declaredMember? hm with ⟨name, parameterNames, -, rfl⟩ | ⟨name, value, g, -, hg, rfl⟩
  · -- A function carries the types of its parameters and of its result.
    cases hx with
    | result h => exact h
    | parameter hp h =>
      obtain ⟨name, _, rfl⟩ := List.mem_map.1 hp
      exact h
  · -- A variable carries its own type and the types of its fields.
    obtain ⟨-, fields, rfl, hfields⟩ := exists_of_buildGlobal? hg
    cases hx with
    | global h => exact h
    | field hx h =>
      obtain ⟨-, hparsed⟩ := hfields (List.ne_nil_of_mem hx)
      rw [hparsed] at hx
      rw [explicitType_of_mem_parseFields hx] at h
      exact h

/-! ## §2 The directive that a type comes from -/

/-- The nearest directive above a line that declares a type for a subject; directives in table literals do
not count. -/
structure NearestDirective (lines : List ScannedLine) (line : ScannedLine) (x : Directive)
    (d : ScannedLine) : Prop where
  mem : d ∈ lines
  waits : d.waits = true
  above : d.number < line.number
  declares : Directive.ofText? d.text = some x
  nearest : ∀ l ∈ lines, l.waits = true → d.number < l.number → l.number < line.number →
    ∀ y, Directive.ofText? l.text = some y → y.subject ≠ x.subject

/-- The lines between a directive and a line that start outside table literals, are no directives and
hold code. -/
def codeBetween (lines : List ScannedLine) (d line : ScannedLine) : List ScannedLine :=
  lines.filter fun l => d.number < l.number && l.number < line.number && l.depthBefore == 0 &&
    !l.isDirective && !l.isBlankLine

/-- A type that a statement's annotations declare comes from a directive that the statement takes. -/
theorem exists_nearestDirective {lines : List ScannedLine} (h : Ascending lines) {s : ScannedLine}
    {x : Directive} (hx : (annotationsFor lines s).typeOf? x.subject = some x.type) :
    ∃ d ∈ directivesFor lines s, NearestDirective lines s x d := by
  obtain ⟨before, text, after, hsplit, hx', hafter⟩ := Annotations.exists_last_directive hx
  -- The line of the directive, and the other lines that the statement takes.
  obtain ⟨ds, es, hdirectives, -, hes⟩ := List.map_eq_append_iff.1 hsplit
  obtain ⟨d, es, rfl, rfl, rfl⟩ := List.map_eq_cons_iff.1 hes
  have hd : d ∈ directivesFor lines s := by
    rw [hdirectives]
    exact List.mem_append_right _ List.mem_cons_self
  obtain ⟨hmem, hwaits, habove, hnone⟩ := mem_directivesFor.1 hd
  refine ⟨d, hd, hmem, hwaits, habove, hx', ?_⟩
  intro l hl hlwaits hdl hls y hy
  -- A directive further down is taken as well, so it stands behind `d` among those taken.
  have hl' : l ∈ directivesFor lines s := by
    apply mem_directivesFor.2
    refine ⟨hl, hlwaits, hls, fun l' hl' hstatement hlt => ?_⟩
    exact hnone l' hl' hstatement (Nat.lt_trans hdl hlt)
  have hascending : Ascending (ds ++ d :: es) := by
    rw [← hdirectives]
    exact h.sublist List.filter_sublist
  rw [hdirectives] at hl'
  rcases List.mem_append.1 hl' with hl' | hl'
  · have := (ascending_split hascending).1 l hl'
    omega
  rcases List.mem_cons.1 hl' with rfl | hl'
  · omega
  · exact hafter l.text (List.mem_map_of_mem hl') y hy

/-- There is one nearest directive. -/
theorem NearestDirective.number_eq {lines : List ScannedLine} {s : ScannedLine} {x : Directive}
    {d e : ScannedLine} (hd : NearestDirective lines s x d) (he : NearestDirective lines s x e) :
    d.number = e.number := by
  rcases Nat.lt_trichotomy d.number e.number with hlt | heq | hlt
  · exact absurd rfl (hd.nearest e he.mem he.waits hlt he.above x he.declares)
  · exact heq
  · exact absurd rfl (he.nearest d hd.mem hd.waits hlt hd.above x hd.declares)

/-! ## §3 What stands in between -/

/-- Between a directive and the statement that takes it, code stands only on lines that start inside a
block comment or a long string. -/
theorem isContinuation_of_mem_codeBetween {lines : List ScannedLine} {d s l : ScannedLine}
    (hd : d ∈ directivesFor lines s) (hl : l ∈ codeBetween lines d s) : l.isContinuation = true := by
  obtain ⟨hmem, hl⟩ := List.mem_filter.1 hl
  simp only [Bool.and_eq_true, decide_eq_true_eq, beq_iff_eq, Bool.not_eq_true', and_assoc] at hl
  obtain ⟨hbelow, habove, hdepth, hdirective, hblank⟩ := hl
  obtain ⟨-, -, -, hnone⟩ := mem_directivesFor.1 hd
  -- Any other line with code is a statement, and the statement would have taken the directive.
  by_contra hcontinuation
  rw [Bool.not_eq_true] at hcontinuation
  have hstatement : l.isStatement = true := by
    apply isStatement_iff.2
    exact ⟨by simp [ScannedLine.insideTable, hdepth], hcontinuation, hdirective, hblank⟩
  have := hnone l hmem hstatement hbelow
  omega

/-- A member of a schema is one that the extraction has found. -/
theorem mem_extractMembers_of_mem {source fileName : Text} {m : Member}
    (hm : m ∈ (parse source fileName).members) : m ∈ (extractMembers {} (scan source)).1 := by
  -- The functions and the variables of a schema are picked from what was found, each by its constructor.
  rcases List.mem_append.1 hm with hm | hm
  · obtain ⟨f, hf, rfl⟩ := List.mem_map.1 hm
    obtain ⟨found, hfound, hf⟩ := List.mem_filterMap.1 hf
    cases found with
    | function f' =>
      obtain rfl := Option.some.inj hf
      exact hfound
    | global g => cases hf
    | field x => cases hf
  · obtain ⟨g, hg, rfl⟩ := List.mem_map.1 hm
    obtain ⟨found, hfound, hg⟩ := List.mem_filterMap.1 hg
    cases found with
    | function f => cases hg
    | global g' =>
      obtain rfl := Option.some.inj hg
      exact hfound
    | field x => cases hg

/-- **A type comes from a directive next to its member.** Every member of a schema stands on a statement of
the source. Each type that it carries comes from the nearest directive above the statement, and where lines
in between hold code outside table literals, they start inside a block comment or a long string. -/
theorem codeBetween_of_carries (source fileName : Text) {m : Member}
    (hm : m ∈ (parse source fileName).members) :
    ∃ s ∈ scan source, s.isStatement = true ∧ memberOn? (scan source) s = some m ∧
      ∀ x, m.Carries x → (∃ d, NearestDirective (scan source) s x d) ∧
        ∀ d, NearestDirective (scan source) s x d →
          ∀ l ∈ codeBetween (scan source) d s, l.isContinuation = true := by
  have hfound := mem_extractMembers_of_mem hm
  rw [extractMembers_scan] at hfound
  obtain ⟨s, hs, hmember⟩ := List.mem_filterMap.1 hfound
  obtain ⟨hs, hstatement⟩ := List.mem_filter.1 hs
  refine ⟨s, hs, hstatement, hmember, fun x hx => ?_⟩
  obtain ⟨e, he, hnearest⟩ :=
    exists_nearestDirective (ascending_scan source) (typeOf?_of_carries hmember hx)
  refine ⟨⟨e, hnearest⟩, fun d hd l hl => ?_⟩
  -- The nearest directive is the one that the statement takes.
  rw [codeBetween, hd.number_eq hnearest] at hl
  exact isContinuation_of_mem_codeBetween he hl

/-- The type of a parameter comes from the directive above the function. -/
theorem parameter_type_from_directive :
    ∃ s ∈ scan "---@param n number\nfunction f(n) end".toList, ∃ d,
      NearestDirective (scan "---@param n number\nfunction f(n) end".toList) s
        (.parameterType ['n'] "number".toList) d := by
  obtain ⟨s, hs, -, -, hcarries⟩ :=
    @codeBetween_of_carries "---@param n number\nfunction f(n) end".toList []
      (.function { name := ['f'], parameters := [⟨['n'], some "number".toList⟩] })
      List.mem_cons_self
  obtain ⟨hnearest, -⟩ := hcarries _ (.parameter List.mem_cons_self rfl)
  exact ⟨s, hs, hnearest⟩

/-- In a source no line with code outside table literals stands between a member and the directive that one
of its types comes from. -/
def NoCodeBetween (source : Text) : Prop :=
  ∀ s ∈ scan source, s.isStatement = true → ∀ m, memberOn? (scan source) s = some m →
    ∀ x, m.Carries x → ∀ d, NearestDirective (scan source) s x d → codeBetween (scan source) d s = []

/-- A directive is delivered past the code behind a block comment. -/
theorem not_noCodeBetween :
    ¬NoCodeBetween "---@type string\n--[[\n]] print(1)\nlabel = other".toList := by
  intro h
  have hwaits : ∀ l ∈ scan "---@type string\n--[[\n]] print(1)\nlabel = other".toList,
      l.waits = true → ¬1 < l.number := by decide
  have hempty := h ⟨4, "label = other".toList, 0, 0, false, false⟩ (by decide) (by decide)
    (.global { name := "label".toList, valueType := .string, explicitType := "string".toList })
    rfl _ (.global rfl) ⟨1, "---@type string".toList, 0, 0, true, false⟩
    { mem := by decide
      waits := by decide
      above := by decide
      declares := by decide
      nearest := fun l hl hw hlt => absurd hlt (hwaits l hl hw) }
  exact absurd hempty (by decide)

end LuaAccessors
