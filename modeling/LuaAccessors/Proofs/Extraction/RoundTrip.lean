import LuaAccessors.Proofs.Extraction.Step
import LuaAccessors.Proofs.TableLiteral.Fields
import LuaAccessors.Proofs.TableLiteral.Lines

/-!
# Printing and reading a table

A tree of table entries is printed as the assignment of a table, and the source is read again: it
declares one variable, whose fields are those of the tree.

- `Laid.tableContent`: the content of the table, on one line or on several ones;
- `extractMembers_laid`: the lines below the first one declare nothing;
- `parse_printAssignment`: the round trip.
-/

namespace LuaAccessors

open Lexis TableLiteral

/-! ## §1 The content of the table -/

/-- The brace that closes the table is among the first tokens, or behind them. -/
theorem append_eq_closing {xs ys ts : List Token} (h : xs ++ ys = ts ++ [.closing]) :
    (xs = ts ++ [.closing] ∧ ys = []) ∨ ∃ us, ts = xs ++ us ∧ ys = us ++ [.closing] := by
  rcases List.append_eq_append_iff.1 h with ⟨us, hts, hys⟩ | ⟨us, hxs, hus⟩
  · exact .inr ⟨us, hts, hys⟩
  · cases us with
    | nil => exact .inr ⟨[], by simpa using hxs.symm, by simpa using hus.symm⟩
    | cons t us =>
      obtain ⟨rfl, hnil⟩ := List.cons.inj hus
      obtain ⟨rfl, rfl⟩ := List.append_eq_nil_iff.1 hnil.symm
      exact .inl ⟨hxs, rfl⟩

/-- As long as the table is open its value does not balance. -/
theorem isBalanced_of_laid {ts us : List Token} {v : Text} (hv : Laid (.opening :: ts) v)
    (htrimmed : Text.Trimmed v)
    (hts : depthInside? 0 ((ts ++ us).flatMap Token.braces) = some 0) : isBalanced v = false := by
  obtain ⟨w, rfl, hw⟩ := hv.exists_of_trimmed htrimmed
  rw [List.flatMap_append, depthInside?_append, ← hw.braces_eq false] at hts
  obtain ⟨depth, hdepth, -⟩ := Option.bind_eq_some_iff.1 hts
  exact isBalanced_eq_false hdepth

/-- **The content of a table** consists of the tokens of its entries, on one line or on several. -/
theorem TableLiteral.Laid.tableContent {first ts : List Token} {segments : List (List Token)}
    {v : Text} {codes : List Text} (hv : Laid (.opening :: first) v) (htrimmed : Text.Trimmed v)
    (hcodes : List.Forall₂ Laid segments codes)
    (htokens : first ++ segments.flatten = ts ++ [.closing])
    (hts : depthInside? 0 (ts.flatMap Token.braces) = some 0) : Laid ts (tableContent v codes) := by
  have hjoin := laid_join (.cons hv hcodes)
  rw [List.flatten_cons, List.cons_append, htokens] at hjoin
  unfold TableLiteral.tableContent
  split
  · -- Braces that balance on the first line close the table there.
    rename_i hbalanced
    rcases append_eq_closing htokens with ⟨rfl, -⟩ | ⟨us, rfl, -⟩
    · exact hv.trimOuterBraces
    · rw [isBalanced_of_laid hv htrimmed hts] at hbalanced
      cases hbalanced
  · -- Otherwise the braces are counted through all lines, the line feeds between them being blanks.
    exact hjoin.contentFromBrace hts

/-! ## §2 The lines below the first one

A table that is laid out over some lines is completed by the code of the lines below. Its tokens are those of
the first line and then those of all others, so the content has the tokens between the two outer braces.
-/

/-- What is left of a table behind some of its lines: the table is open and the other tokens close it,
or no token is left. -/
def Remaining (depth : Nat) (ts : List Token) : Prop :=
  ts = [] ∨ ∃ d us, depth = d + 1 ∧ ts = us ++ [.closing] ∧
    depthInside? d (us.flatMap Token.braces) = some 0

/-- Behind further tokens of the table less of it is left. -/
theorem Remaining.append {depth : Nat} {ts us : List Token} (h : Remaining depth (ts ++ us)) :
    Remaining ((ts.flatMap Token.braces).foldl depthBehind depth) us := by
  rcases h with hnil | ⟨d, vs, rfl, hvs, hinside⟩
  · exact .inl (List.append_eq_nil_iff.1 hnil).2
  rcases append_eq_closing hvs with ⟨-, rfl⟩ | ⟨ws, rfl, rfl⟩
  · exact .inl rfl
  rw [List.flatMap_append, depthInside?_append] at hinside
  obtain ⟨next, hnext, hrest⟩ := Option.bind_eq_some_iff.1 hinside
  exact .inr ⟨next, ws, foldl_depthBehind hnext, rfl, hrest⟩

/-- The lines of a table below its first line declare nothing. -/
theorem extractMembers_laid {segments : List (List Token)} {raws : List Text}
    (h : List.Forall₂ LaidLine segments raws) {state : ScanState} (hcarry : state.carry = .nothing)
    (hremaining : Remaining state.depth segments.flatten) (waiting : Collector) :
    (extractMembers waiting (scanLines state raws).1).1 = [] := by
  induction h generalizing state waiting with
  | nil => rfl
  | @cons ts raw segments raws hline _ ih =>
    have hdepth := depth_scanLine_laid hline hcarry
    have hbelow := ih (carry_scanLine_laid hline hcarry) (hdepth ▸ hremaining.append)
    -- While the table is open the line is inside it, and afterwards no token is left for it.
    have hpassed : (scanLine state raw).1.isStatement = false := by
      rcases hremaining with hnil | ⟨d, us, hopen, -⟩
      · obtain ⟨hcode, htrimmed, -⟩ := code_scanLine_laid hline hcarry
        rw [(List.append_eq_nil_iff.1 hnil).1] at hcode
        have hempty := strip_eq_nil_of_laid hcode
        rw [Text.strip_eq_self htrimmed] at hempty
        exact isStatement_of_code_eq_nil hempty
      · simp [ScannedLine.isStatement, ScannedLine.insideTable, depthBefore_scanLine, hopen]
    show (extractMembers waiting ((scanLine state raw).1 :: _)).1 = []
    rw [extractMembers_of_not_statement hpassed]
    exact hbelow _

/-! ## §3 The first line -/

/-- A line that starts with a key, an equality sign and a brace assigns a table. -/
theorem ofLine?_laid {name : Identifier} {ts : List Token} {line : Text}
    (h : Laid (.key name :: .equals :: .opening :: ts) line) (htrimmed : Text.Trimmed line)
    (hfeed : '\n' ∉ line) :
    ∃ v, Declaration.ofLine? line = some (.assignment name.text v false) ∧
      Laid (.opening :: ts) v ∧ Text.Trimmed v := by
  obtain ⟨u, rfl, hu⟩ := h.exists_of_trimmed htrimmed
  obtain ⟨b, w, rfl, hb, hw⟩ := hu.exists_cons
  -- Behind the equality sign stands a blank or the brace, so it is no comparison.
  obtain ⟨b', w', rfl, hb', -⟩ := hw.exists_cons
  refine ⟨_, ?_, hw.strip, Text.trimmed_strip _⟩
  apply ofLine?_assignment (fun c hc => isNamePart_of_mem_identifier hc) hb rfl
    name.isNameStart_first
  case hfeed =>
    intro hmem
    apply hfeed
    exact List.mem_append_right _ (List.mem_append_right _ (List.mem_append_right _ hmem))
  case hu => simp [Token.text]
  case hsign =>
    cases b' with
    | nil => simp [Token.text]
    | cons c b' =>
      have hc := hb' c List.mem_cons_self
      simpa using ne_of_isBlank hc (d := '=') rfl

/-- The variable that the printed assignment declares. -/
def printedGlobal (name : Identifier) (entries : List Entry) : Global :=
  { name := name.text, valueType := .table, fields := fieldsOf entries }

/-- The first line declares the variable, and the lines below it complete its fields. -/
theorem declaredMember?_laid {name : Identifier} {entries : List Entry} {trailing : Bool}
    {first : List Token} {segments : List (List Token)} {line : Text} {following : List ScannedLine}
    (hline : Laid (.key name :: .equals :: .opening :: first) line) (htrimmed : Text.Trimmed line)
    (hfeed : '\n' ∉ line)
    (hcodes : List.Forall₂ Laid segments (following.map ScannedLine.code))
    (htokens : first ++ segments.flatten = tokensOf trailing entries ++ [.closing]) :
    declaredMember? line {} following = some (.global (printedGlobal name entries)) := by
  -- The value is what stands behind the equality sign, up to the end of the first line.
  obtain ⟨v, hassign, hv, hv'⟩ := ofLine?_laid hline htrimmed hfeed
  have hcontent := hv.tableContent hv' hcodes htokens (depthInside?_tokensOf trailing entries)
  have hfields := parseFields_eq_fieldsOf hcontent
  have htype := inferValueType_table hv
  -- It starts with a brace, so it is neither a function nor anything but a table.
  have hfunction : startsWithKeyword functionKeyword v = false := by
    obtain ⟨w, rfl, -⟩ := hv.exists_of_trimmed hv'
    rfl
  have hparse : parseTable v (following.map ScannedLine.code) [] = fieldsOf entries := hfields
  simp [declaredMember?, hassign, buildGlobal?, hfunction, resolveValueType, htype, hparse,
    printedGlobal]

/-! ## §4 The round trip -/

theorem laid_start (name : Identifier) :
    Laid [.key name, .equals, .opening] (name.text ++ r" = {".toList) := by
  have hspace : Text.AllBlank [' '] := Text.allBlank_cons.2 ⟨rfl, Text.allBlank_nil⟩
  exact ((((laid_nil.cons .opening).blanks_append hspace).cons .equals).blanks_append hspace).cons
    (.key name)

theorem unbroken_start (name : Identifier) : Unbroken (name.text ++ r" = {".toList) := by
  apply unbroken_append.2
  refine ⟨(word_identifier name).unbroken, ?_⟩
  simp [Unbroken, isLineBreak]

/-- The printed assignment declares its variable and nothing else. -/
theorem extractMembers_printAssignment (name : Identifier) (entries : List Entry) (trailing : Bool)
    (layout : Layout) :
    (extractMembers {} (scan (printAssignment name entries trailing layout))).1 =
      [.global (printedGlobal name entries)] := by
  obtain ⟨segment, segments, raw, raws, hsplit, hline, hlines, htokens⟩ :=
    (laidLines_lay layout 0 (tokensOf trailing entries ++ [.closing])).exists_first
      (laid_start name) (unbroken_start name)
  have hscan : scan (printAssignment name entries trailing layout) =
      (scanLine {} raw).1 :: (scanLines (scanLine {} raw).2 raws).1 := by
    rw [scan, printAssignment, hsplit]
    rfl
  -- The first line holds code, so it is no directive and not blank.
  obtain ⟨hcode, htrimmed, hunbroken⟩ := @code_scanLine_laid _ _ hline {} rfl
  have hcarry := @carry_scanLine_laid _ _ hline {} rfl
  have hdepth := @depth_scanLine_laid _ _ hline {} rfl
  have hnonempty : (scanLine {} raw).1.code ≠ [] := by
    rw [← Text.strip_eq_self htrimmed]
    exact hcode.strip_ne_nil
  have hdirective : (scanLine {} raw).1.isDirective = false := by
    rw [Bool.eq_false_iff]
    intro hdirective
    simp [ScannedLine.code, hdirective] at hnonempty
  rw [code_eq_text hdirective] at hcode htrimmed hunbroken hnonempty
  have hstatement : (scanLine {} raw).1.isStatement = true := by
    apply isStatement_iff.2
    simp [ScannedLine.insideTable, ScannedLine.isBlankLine, depthBefore_scanLine,
      isContinuation_scanLine, hdirective, hnonempty]
  have hdeclared := declaredMember?_laid hcode htrimmed hunbroken.not_mem_lineFeed
    (codes_scanLines_laid hlines hcarry) htokens
  -- The brace on the first line is open in front of the lines below.
  have hremaining : Remaining 1 (segment ++ segments.flatten) :=
    .inr ⟨0, tokensOf trailing entries, rfl, htokens, depthInside?_tokensOf trailing entries⟩
  have hbelow := extractMembers_laid hlines hcarry (hdepth ▸ hremaining.append)
  rw [hscan, extractMembers_of_statement hstatement]
  show (declaredMember? _ {} _).toList ++ _ = _
  rw [hdeclared, hbelow]
  rfl

/-- **Reading undoes printing.** The source that assigns a printed table to a variable declares that
variable and nothing else, and its fields are the keyed entries of the tree, whatever the layout. -/
theorem parse_printAssignment (name : Identifier) (entries : List Entry) (trailing : Bool)
    (layout : Layout) (fileName : Text) :
    parse (printAssignment name entries trailing layout) fileName =
      { fileName
        functions := []
        globals := [{ name := name.text, valueType := .table, fields := fieldsOf entries }] } := by
  have hmembers := extractMembers_printAssignment name entries trailing layout
  -- What is left is to sort one member into functions and variables.
  generalize printAssignment name entries trailing layout = source at hmembers ⊢
  show ParseResult.mk fileName (memberFunctions (extractMembers {} (scan source)).1)
    (memberGlobals (extractMembers {} (scan source)).1) [] = _
  rw [hmembers]
  rfl

end LuaAccessors
