import LuaAccessors.Proofs.TableLiteral.Cuts
import LuaAccessors.Proofs.TableLiteral.Signs

/-!
# Levels of tables

The fields of a content are read from the content, and from the contents of the tables in it, each of which is
shorter. How many levels of fields there are is bounded by the braces that open in code, however the content is
formed. A brace is not always taken away on the way down: a table that nothing closes is its own content. But then
the sign in front of which the next name stands is behind that brace, and the next value starts behind the sign.

- `Mode.EndsInBracket`, `code_or_delimiter_behind_sign`: what follows a visible sign;
- `openings`: the braces that open in code, and how they are shared out among entries, values and contents;
- `levels`, `levels_inner_lt`: the bound on the way down;
- `Field.height`, `heightOf_parseFields_le`: the bound on the fields;
- `parseFields_descends`: all of it together.
-/

namespace LuaAccessors

namespace Lexis

/-! ## §1 Behind a visible sign -/

/-- A delimiter that is half read ends in a bracket, and not in an equality sign. -/
def Mode.EndsInBracket (mode : Mode) (t : Text) : Prop :=
  match mode with
  | .within left _ _ => ∃ d, t[left]? = some d ∧ d ≠ '='
  | _ => True

theorem endsInBracket_step {mode : Mode} {c : Char} {rest : Text} (hsound : mode.Sound (c :: rest))
    (h : mode.EndsInBracket (c :: rest)) : (mode.step false c rest).2.EndsInBracket rest := by
  have hstep := stepCase false mode c rest
  generalize mode.step false c rest = s at hstep ⊢
  -- Only the openings and the closings of brackets start a delimiter of more than one character.
  cases hstep with
  | blockComment hcomments => cases hcomments
  | openingBracket hopener => exact ⟨'[', getElem?_of_bracket hopener, by decide⟩
  | closingBracket hcloser => exact ⟨']', getElem?_of_bracket hcloser, by decide⟩
  | closingComment hcloser => exact ⟨']', getElem?_of_bracket hcloser, by decide⟩
  | @delimiterEnd role next =>
    cases next with
    | within left role next => cases hsound.isWithin_next
    | _ => trivial
  | delimiter => exact h
  | _ => trivial

/-- **Behind the first visible sign** a text is read on its own, or it goes on inside the delimiter of a long
string. -/
theorem code_or_delimiter_behind_sign {mode : Mode} {t : Text} {before after : Marked} (hsound : mode.Sound t)
    (hcomment : mode.uncommented = mode) (hbracket : mode.EndsInBracket t)
    (h : markedFrom mode t = before ++ ('=', '=') :: after) :
    after = markedFrom .code after.text ∨ ∃ d ∈ after.text.head?, isDelimiterChar d = true := by
  induction before generalizing mode t with
  | nil =>
    cases t with
    | nil => cases h
    | cons c rest =>
      rw [markedFrom_cons, List.nil_append, List.cons.injEq, Prod.mk.injEq] at h
      obtain ⟨⟨rfl, hshown⟩, rfl⟩ := h
      rw [text_markedFrom]
      have hstep := stepCase false mode '=' rest
      generalize mode.step false '=' rest = s at hstep hshown ⊢
      cases hstep with
      | code => exact .inl rfl
      | delimiterEnd =>
        -- The last character of a delimiter is a bracket.
        obtain ⟨d, hd, hne⟩ := hbracket
        exact absurd (Option.some.inj hd).symm hne
      | @delimiter left role next =>
        -- So more of the delimiter follows a sign in it.
        right
        have hlength := hsound.length_lt
        cases rest with
        | nil => simp at hlength
        | cons d rest => exact ⟨d, rfl, hsound.chars d (by simp)⟩
      | openingQuote hquote => cases hquote
      | closingQuote => cases hsound
      | escapedEnd => cases hsound
      | openingBracket hopener => cases head_of_opener hopener
      | closingBracket hcloser => cases head_of_closer hcloser
      | inLineComment => cases hcomment
      | closingComment => cases hcomment
      | inBlockComment => cases hcomment
      -- The content of a literal is shown as spaces.
      | _ => cases hshown
  | cons p before ih =>
    cases t with
    | nil => cases h
    | cons c rest =>
      rw [markedFrom_cons, List.cons_append, List.cons.injEq] at h
      exact ih (sound_step false hsound) (uncommented_step hsound hcomment).1 (endsInBracket_step hsound hbracket)
        h.2

end Lexis

namespace TableLiteral

open Lexis

/-! ## §2 Braces that open in code -/

/-- How many braces of a text open in code. -/
def openings (t : Text) : Nat := (braces false .code t).count '{'

theorem openings_eq_count (t : Text) : openings t = ((marked t).map (·.2)).count '{' := by
  rw [map_snd_marked, count_mask rfl, openings]

theorem openings_open (rest : Text) : openings ('{' :: rest) = openings rest + 1 := by
  rw [openings, braces_cons, step_code_open]
  simp [Role.kind, isBrace, openings]

theorem openings_strip (t : Text) : openings t.strip = openings t := by
  obtain ⟨b₁, b₂, hb₁, hb₂, ht⟩ := Text.exists_blanks_strip t
  conv_rhs => rw [ht]
  rw [openings, openings, braces_blanks (ignoresBlanks_code false) hb₁, braces_append_blanks _ _ _ hb₂]

/-- The start of a text has no more of them, if it ends in front of a character that is in no delimiter. -/
theorem openings_le_append {b : Char} (hb : isDelimiterChar b = false) (t u : Text) :
    openings t ≤ openings (t ++ b :: u) := by
  rw [openings, openings, braces_append_cons hb, List.count_append]
  exact Nat.le_add_right _ _

theorem Closed.openings_append {piece : Text} (h : Closed piece) (rest : Text) :
    openings (piece ++ ',' :: rest) = openings piece + openings rest := by
  have hcomma : braces false .code (',' :: rest) = braces false .code rest := by
    rw [braces_cons, step_code_of_isBare (c := ',') rfl]
    rfl
  rw [openings, braces_append_cons rfl, h.after_eq, hcomma, List.count_append, openings, openings]

/-- The braces of a content are shared out among its pieces. -/
theorem openings_piece_le {pieces : List Text} (h : pieces.Pairwise fun piece _ => Closed piece) {piece : Text}
    (hpiece : piece ∈ pieces) : openings piece ≤ openings (Text.join [','] pieces) := by
  -- Each piece is closed, so the braces behind its comma are counted as if nothing stood in front.
  induction pieces with
  | nil => cases hpiece
  | cons first pieces ih =>
    obtain ⟨hclosed, hpairs⟩ := List.pairwise_cons.1 h
    cases pieces with
    | nil => rw [List.mem_singleton.1 hpiece]; rfl
    | cons next more =>
      rw [Text.join_cons_cons, List.singleton_append, (hclosed next List.mem_cons_self).openings_append]
      rcases List.mem_cons.1 hpiece with rfl | hpiece
      · exact Nat.le_add_right _ _
      · exact (ih hpairs hpiece).trans (Nat.le_add_left _ _)

theorem openings_entry_le {content entry : Text} (h : entry ∈ splitEntries content) :
    openings entry ≤ openings content := by
  have hcut := cutAt_marked content
  rw [splitEntries_of_cutAt hcut] at h
  obtain ⟨piece, hpiece, rfl⟩ := List.mem_map.1 (List.mem_filter.1 h).1
  obtain ⟨-, hjoin, -, hpairs⟩ := cutAt_iff.1 hcut
  rw [openings_strip, ← hjoin]
  exact openings_piece_le hpairs hpiece

/-- **The braces of a keyed entry** are those in front of the sign and those of the value, if the value is a
table. -/
theorem openings_keyed {entry name value : Text} (h : splitKeyed? entry = some (name, value))
    (htable : inferValueType value = .table) : ∃ before after, FirstSign entry before after ∧
      openings entry = (before.map (·.2)).count '{' + openings value := by
  obtain ⟨before, after, hsign, -, -, rfl⟩ := splitKeyed?_eq_some_iff.1 h
  refine ⟨before, after, hsign, ?_⟩
  have hsound : Mode.code.Sound entry := trivial
  rcases code_or_delimiter_behind_sign hsound rfl trivial hsign.marked_eq with hafter | ⟨d, hd, hdelimiter⟩
  · -- What is read on its own behind the sign has the braces of the value.
    have hvalue : ((after.map (·.2)).count '{') = openings (Text.strip after.text) := by
      rw [openings_strip, openings_eq_count, marked_eq, ← hafter]
    rw [openings_eq_count, hsign.marked_eq, List.map_append, List.count_append, List.map_cons,
      List.count_cons_of_ne (by decide), hvalue]
  · -- Inside a delimiter no table starts.
    obtain ⟨rest, hrest⟩ := List.head?_eq_some_iff.1 hd
    have hblank : isBlank d = false := by
      rw [Bool.eq_false_iff]
      intro hblank
      rw [isDelimiterChar_eq_false_of_isBlank hblank] at hdelimiter
      cases hdelimiter
    have hhead := head?_of_inferValueType (Text.trimmed_strip _) htable
    rw [hrest, Text.head?_strip hblank, Option.some.injEq] at hhead
    rw [hhead] at hdelimiter
    cases hdelimiter

/-! ## §3 Levels

A field that is a table is read again, from the content of its value. That is shorter than the entry, so the
reading ends, and the braces that open in it are fewer, so they bound how deep it goes.
-/

/-- A text that starts with a brace in code, behind which none closes. -/
def Unclosed (t : Text) : Prop := t.head? = some '{' ∧ (braces false .code t).count '}' = 0

instance : DecidablePred Unclosed := fun _ => inferInstanceAs (Decidable (_ ∧ _))

/-- How many levels of fields a content can have: one more than there are braces that open in code, unless the first
of them stands in front of the fields and stays there. -/
def levels (t : Text) : Nat := if Unclosed t then openings t else openings t + 1

theorem levels_le (t : Text) : levels t ≤ openings t + 1 := by
  unfold levels
  split <;> omega

theorem levels_pos (t : Text) : 0 < levels t := by
  unfold levels
  split
  · rename_i h
    obtain ⟨rest, rfl⟩ := List.head?_eq_some_iff.1 h.1
    rw [openings_open]
    exact Nat.succ_pos _
  · exact Nat.succ_pos _

/-- As long as nothing closes, no comma is at depth zero behind a brace. -/
theorem not_topComma_of_not_closing {mode : Mode} {t : Text} (h : (braces false mode t).count '}' = 0)
    (depth i : Nat) : ¬TopComma mode (depth + 1) t i := by
  induction t generalizing mode depth i with
  | nil => exact not_topComma_nil _ _ _
  | cons c rest ih =>
    rw [braces_cons, List.count_append, Nat.add_eq_zero_iff] at h
    cases i with
    | zero => exact fun hcut => absurd (topComma_zero_iff.1 hcut).2.2 (Nat.succ_ne_zero _)
    | succ i =>
      -- Only a closing brace in code could bring the depth down to zero.
      obtain ⟨next, hnext⟩ : ∃ next, stepDepth (depth + 1) c (mode.step false c rest).1 = next + 1 := by
        unfold stepDepth
        split
        · rename_i hcode
          split
          · exact ⟨_, rfl⟩
          · split
            · rename_i hclose
              subst hclose
              simp [hcode, Role.kind, isBrace] at h
            · exact ⟨_, rfl⟩
        · exact ⟨_, rfl⟩
      rw [topComma_succ_iff, hnext]
      exact ih h.2 next i

/-- A content that nothing closes is one entry. -/
theorem splitEntries_of_unclosed {content : Text} (h : Unclosed content) :
    splitEntries content = [content.strip] := by
  obtain ⟨rest, rfl⟩ := List.head?_eq_some_iff.1 h.1
  -- The first brace is never closed, so no comma behind it is at depth zero.
  have huncut : Uncut ('{' :: rest) := by
    intro i
    cases i with
    | zero => exact fun hcut => absurd (topComma_zero_iff.1 hcut).1 (by decide)
    | succ i =>
      have hrest := h.2
      rw [braces_cons, step_code_open, List.count_append, Nat.add_eq_zero_iff] at hrest
      rw [topComma_succ_iff, step_code_open]
      exact not_topComma_of_not_closing hrest.2 0 i
  have hne : Text.strip ('{' :: rest) ≠ [] := by
    intro hnil
    have hhead := Text.head?_strip (c := '{') (t := rest) rfl
    rw [hnil] at hhead
    cases hhead
  rw [splitEntries_of_cutAt (.last huncut)]
  simp [hne]

/-- The braces of a table in a content are fewer than the levels of the content. -/
theorem openings_value_lt {content name value : Text} (h : (name, value) ∈ keyedEntries content)
    (htable : inferValueType value = .table) : openings value < levels content := by
  obtain ⟨entry, hentry, hkeyed⟩ := List.mem_filterMap.1 h
  obtain ⟨before, after, hsign, hopenings⟩ := openings_keyed hkeyed htable
  have hle := openings_entry_le hentry
  unfold levels
  split
  · rename_i hunclosed
    -- The brace in front is also the first character of the only entry, and the sign stands behind it.
    rw [splitEntries_of_unclosed hunclosed, List.mem_singleton] at hentry
    obtain ⟨rest, rfl⟩ := List.head?_eq_some_iff.1 hunclosed.1
    obtain ⟨more, hmore⟩ := List.head?_eq_some_iff.1 (Text.head?_strip (c := '{') (t := rest) rfl)
    have hmarked := hsign.marked_eq
    rw [hentry, hmore, markedFrom_open] at hmarked
    cases before with
    | nil => cases hmarked
    | cons p before =>
      rw [← (List.cons.inj hmarked).1, List.map_cons, List.count_cons_self] at hopenings
      omega
  · omega

/-- What is inside a table has no more levels than the table has braces. -/
theorem levels_trimOuterBraces_le {value : Text} (h : value.head? = some '{') :
    levels (trimOuterBraces value) ≤ openings value := by
  obtain ⟨rest, rfl⟩ := List.head?_eq_some_iff.1 h
  cases hlast : beforeLast? '}' (markedFrom .code rest) with
  | none =>
    -- Nothing closes the table, which is its own content.
    have hsame : trimOuterBraces ('{' :: rest) = '{' :: rest := by
      rw [trimOuterBraces_eq, markedFrom_open]
      simp [hlast]
    have hunclosed : Unclosed ('{' :: rest) := by
      refine ⟨rfl, ?_⟩
      have hcount : (braces false .code rest).count '}' = 0 := by
        rw [← shownBraces_code, count_shownBraces rfl]
        exact List.count_eq_zero.2 (not_mem_shown_iff.2 (ne_of_beforeLast?_eq_none hlast))
      rw [braces_cons, step_code_open, List.count_append, hcount]
      rfl
    rw [hsame, levels, if_pos hunclosed]
  | some front =>
    obtain ⟨p, behind, hmarked, hp, -⟩ := beforeLast?_eq_some hlast
    have hclose : p.1 = '}' := by
      have hmem : p ∈ markedFrom .code rest := by simp [hmarked]
      exact (fst_eq_of_shown hmem (by simp [hp])).trans hp
    have hle := openings_le_append (b := '}') rfl front.text (Marked.text behind)
    rw [← hclose, ← text_of_marked hmarked] at hle
    rw [trimOuterBraces_of_beforeLast? hlast, openings_open]
    exact (levels_le _).trans (Nat.succ_le_succ hle)

/-- **On the way down** there are fewer levels. -/
theorem levels_inner_lt {content name value : Text} (h : (name, value) ∈ keyedEntries content)
    (htable : inferValueType value = .table) : levels (trimOuterBraces value) < levels content := by
  obtain ⟨entry, -, hkeyed⟩ := List.mem_filterMap.1 h
  obtain ⟨_, _, -, -, -, hvalue⟩ := splitKeyed?_eq_some_iff.1 hkeyed
  have hhead := head?_of_inferValueType (hvalue ▸ Text.trimmed_strip _) htable
  exact (levels_trimOuterBraces_le hhead).trans_lt (openings_value_lt h htable)

end TableLiteral

/-! ## §4 The height of a tree of fields -/

mutual

/-- The levels of a field: its own, and those of its fields. -/
def Field.height : Field → Nat
  | ⟨_, _, fields, _⟩ => heightOf fields + 1

/-- The levels of some fields, which stand side by side. -/
def heightOf : List Field → Nat
  | [] => 0
  | field :: fields => max field.height (heightOf fields)

end

theorem Field.height_eq (field : Field) : field.height = heightOf field.fields + 1 := by
  cases field
  rw [Field.height]

theorem heightOf_le_iff {fields : List Field} {n : Nat} :
    heightOf fields ≤ n ↔ ∀ field ∈ fields, field.height ≤ n := by
  induction fields with
  | nil => simp [heightOf]
  | cons field fields ih => rw [heightOf, Nat.max_le, ih, List.forall_mem_cons]

namespace TableLiteral

/-- A content has no more levels of fields than its braces allow. -/
theorem heightOf_parseFields_le (content : Text) (types : Dictionary Text) :
    heightOf (parseFields content types) ≤ levels content := by
  induction hn : content.length using Nat.strong_induction_on generalizing content types with
  | h n ih =>
    subst hn
    rw [parseFields_eq_map, heightOf_le_iff, List.forall_mem_map]
    rintro ⟨name, value⟩ hentry
    rw [Field.height_eq, annotatedField]
    dsimp only
    split
    · rename_i htable
      -- The content inside is shorter, so its fields are bounded by its levels already.
      have hlength := (length_trimOuterBraces_le value).trans_lt (length_lt_of_mem_keyedEntries hentry)
      exact (Nat.succ_le_succ (ih _ hlength _ [] rfl)).trans (levels_inner_lt hentry htable.2)
    · exact levels_pos content

/-! ## §5 Together -/

/-- The contents that the fields in a content are read from: those of the values that are tables, and that no
annotation makes another kind of value. -/
def innerContents (types : Dictionary Text) (content : Text) : List Text :=
  ((keyedEntries content).filter fun entry =>
    resolveValueType entry.2 (types.get? entry.1) = .table ∧ inferValueType entry.2 = .table).map
      fun entry => trimOuterBraces entry.2

/-- The fields of a content, where `read` gives the fields of the contents inside. -/
def fieldsWith (read : Text → List Field) (types : Dictionary Text) (content : Text) : List Field :=
  (keyedEntries content).map fun entry =>
    { name := entry.1
      valueType := resolveValueType entry.2 (types.get? entry.1)
      fields :=
        if resolveValueType entry.2 (types.get? entry.1) = .table ∧ inferValueType entry.2 = .table then
          read (trimOuterBraces entry.2)
        else []
      explicitType := types.get? entry.1 }

/-- **The fields of a content** are read with those of the contents inside it and of no others; each of these is
shorter than the content; and there is at most one level of fields more than braces open in code. -/
theorem parseFields_descends (content : Text) (types : Dictionary Text) :
    (∀ read : Text → List Field, (∀ inner ∈ innerContents types content, read inner = parseFields inner []) →
      parseFields content types = fieldsWith read types content) ∧
      (∀ inner ∈ innerContents types content, inner.length < content.length) ∧
      heightOf (parseFields content types) ≤ openings content + 1 := by
  refine ⟨fun read hread => ?_, fun inner hinner => ?_, ?_⟩
  · -- Entry by entry: where the content of a value is read, it is one of the contents inside.
    rw [parseFields_eq_map, fieldsWith]
    refine List.map_congr_left fun entry hentry => ?_
    rw [annotatedField]
    congr 1
    split
    · rename_i htable
      refine (hread _ (List.mem_map.2 ⟨entry, List.mem_filter.2 ⟨hentry, ?_⟩, rfl⟩)).symm
      exact decide_eq_true htable
    · rfl
  · obtain ⟨⟨name, value⟩, hentry, rfl⟩ := List.mem_map.1 hinner
    have hlength := length_lt_of_mem_keyedEntries (List.mem_filter.1 hentry).1
    exact (length_trimOuterBraces_le value).trans_lt hlength
  · exact (heightOf_parseFields_le content types).trans (levels_le content)

/-- The value of `a` in the content below: a table that nothing closes. -/
def unclosedTable : Text := r"{ b = { c = 1".toList

/-- A content in which no brace closes. -/
def unclosedContent : Text := "a = ".toList ++ unclosedTable

/-- The table is its own content, and still shorter than the content that it is in. -/
theorem levels_of_unclosedContent : trimOuterBraces unclosedTable = unclosedTable ∧
    innerContents [] unclosedContent = [unclosedTable] ∧ unclosedTable.length < unclosedContent.length ∧
    heightOf (parseFields unclosedContent []) ≤ 3 := by
  have hinner : innerContents [] unclosedContent = [unclosedTable] := by decide
  have hopenings : openings unclosedContent = 2 := by decide
  obtain ⟨-, hlength, hheight⟩ := parseFields_descends unclosedContent []
  rw [hinner] at hlength
  rw [hopenings] at hheight
  exact ⟨by decide, hinner, hlength _ List.mem_cons_self, hheight⟩

end TableLiteral

end LuaAccessors
