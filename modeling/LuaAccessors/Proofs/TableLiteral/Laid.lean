import LuaAccessors.Proofs.TableLiteral.Extent
import LuaAccessors.Proofs.TableLiteral.Printed

/-!
# Tokens between blanks

How the tokens of a table are read, one after the other, when nothing but blanks stands between them.

- `Word`: what keys and scalars have in common;
- `Token.standalone`, `Token.braces_eq`, `Token.keptText_eq`: every token is read on its own;
- `Laid`: tokens with blanks around them, and how such texts are cut, joined, trimmed and read.
-/

namespace LuaAccessors.TableLiteral

open Lexis

/-! ## §1 Words -/

/-- A character that structures a table when it is visible. -/
def isStructural (c : Char) : Bool := isBrace c || c == ',' || c == '='

/-- A text within a line that is read on its own and shows nothing that structures a table. -/
structure Word (w : Text) : Prop where
  standalone : ∀ comments, Standalone comments w
  keptText_eq : keptText .code w = w
  shown : ∀ p ∈ markedFrom .code w, isStructural p.2 = false
  braces_eq : ∀ comments, braces comments .code w = []
  unbroken : Unbroken w
  ne_nil : w ≠ []
  trimmed : Text.Trimmed w

/-- A character of a bare word. -/
def isWordChar (c : Char) : Bool := isNamePart c || c == '.' || c == '-'

theorem isWordChar_of_isDigit {c : Char} (hc : c.isDigit = true) : isWordChar c = true := by
  simp [isWordChar, isNamePart, Char.isAlphanum, hc]

theorem ne_of_isWordChar {c d : Char} (hc : isWordChar c = true) (hd : isWordChar d = false) :
    c ≠ d := by
  rintro rfl
  rw [hc] at hd
  cases hd

theorem isBlank_eq_false_of_isWordChar {c : Char} (hc : isWordChar c = true) :
    isBlank c = false := by
  simp only [isWordChar, Bool.or_eq_true, beq_iff_eq] at hc
  rcases hc with (hc | rfl) | rfl
  · exact isBlank_eq_false_of_isNamePart hc
  · rfl
  · rfl

theorem isStructural_eq_false_of_isWordChar {c : Char} (hc : isWordChar c = true) :
    isStructural c = false := by
  simp [isStructural, isBrace, ne_of_isWordChar hc (d := '{') rfl,
    ne_of_isWordChar hc (d := '}') rfl, ne_of_isWordChar hc (d := ',') rfl,
    ne_of_isWordChar hc (d := '=') rfl]

theorem isBrace_eq_false_of_isStructural {c : Char} (hc : isStructural c = false) :
    isBrace c = false := by
  simp only [isStructural, Bool.or_eq_false_iff] at hc
  exact hc.1.1

/-- A text of word characters that is code is a word. -/
theorem word_of_inCode {w : Text} (hcode : ∀ comments, InCode comments w)
    (hw : ∀ c ∈ w, isWordChar c = true) (hne : w ≠ []) : Word w where
  standalone comments := (hcode comments).standalone
  keptText_eq := (hcode true).keptText_eq
  -- Neither a brace nor any other sign is a character of a word.
  shown := by
    rw [(hcode false).markedFrom_eq]
    intro p hp
    obtain ⟨c, hc, rfl⟩ := List.mem_map.1 hp
    exact isStructural_eq_false_of_isWordChar (hw c hc)
  braces_eq comments := by
    rw [(hcode comments).braces_eq]
    apply List.filter_eq_nil_iff.2
    intro c hc
    simp [isBrace_eq_false_of_isStructural (isStructural_eq_false_of_isWordChar (hw c hc))]
  unbroken c hc := by
    simp [isLineBreak, ne_of_isWordChar (hw c hc) (d := '\n') rfl,
      ne_of_isWordChar (hw c hc) (d := '\r') rfl]
  ne_nil := hne
  trimmed := by
    constructor
    · intro c hc
      exact isBlank_eq_false_of_isWordChar (hw c (List.mem_of_head? hc))
    · intro c hc
      exact isBlank_eq_false_of_isWordChar (hw c (List.mem_of_getLast? hc))

theorem isBare_of_isNamePart {c : Char} (hc : isNamePart c = true) : isBare c = true :=
  isBare_of_isPlain (isPlain_of_isNamePart hc)

theorem isNamePart_of_mem_identifier {i : Identifier} {c : Char} (hc : c ∈ i.text) :
    isNamePart c = true := by
  rcases List.mem_cons.1 hc with rfl | hc
  · exact isNamePart_of_isNameStart i.isNameStart_first
  · exact i.isNamePart_others c hc

theorem word_identifier (i : Identifier) : Word i.text := by
  apply word_of_inCode
  · intro comments
    exact inCode_of_isBare fun c hc => isBare_of_isNamePart (isNamePart_of_mem_identifier hc)
  · intro c hc
    simp [isWordChar, isNamePart_of_mem_identifier hc]
  · simp [Identifier.text]

theorem mem_unsigned {n : Numeral} {c : Char} (hc : c ∈ n.unsigned) : c.isDigit = true ∨ c = '.' := by
  rcases List.mem_cons.1 hc with rfl | hc
  · exact .inl n.isDigit_first
  rcases List.mem_append.1 hc with hc | hc
  · exact .inl (n.isDigit_others c hc)
  cases hfraction : n.fraction with
  | none =>
    rw [hfraction] at hc
    cases hc
  | some t =>
    rw [hfraction] at hc
    rcases List.mem_cons.1 hc with rfl | hc
    · exact .inr rfl
    · exact .inl (n.isDigit_fraction t hfraction c hc)

theorem word_numeral (n : Numeral) : Word n.text := by
  have hbare : ∀ c ∈ n.unsigned, isBare c = true := by
    intro c hc
    rcases mem_unsigned hc with hdigit | rfl
    · exact isBare_of_isNamePart (by simp [isNamePart, Char.isAlphanum, hdigit])
    · rfl
  have hword : ∀ c ∈ n.unsigned, isWordChar c = true := by
    intro c hc
    rcases mem_unsigned hc with hdigit | rfl
    · exact isWordChar_of_isDigit hdigit
    · rfl
  -- A minus sign in front is code, since a digit and no other sign follows it.
  unfold Numeral.text
  split
  · apply word_of_inCode
    · intro comments
      exact inCode_minus hbare
    · intro c hc
      rcases List.mem_cons.1 hc with rfl | hc
      · rfl
      · exact hword c hc
    · simp
  · apply word_of_inCode
    · intro comments
      exact inCode_of_isBare hbare
    · exact hword
    · simp [Numeral.unsigned]

/-- A text of word characters that are bare is a word. -/
theorem word_of_all {w : Text} (hw : w.all (fun c => isWordChar c && isBare c) = true) (hne : w ≠ []) :
    Word w := by
  have hall : ∀ c ∈ w, isWordChar c = true ∧ isBare c = true := by
    intro c hc
    simpa using List.all_eq_true.1 hw c hc
  apply word_of_inCode
  · intro comments
    exact inCode_of_isBare fun c hc => (hall c hc).2
  · exact fun c hc => (hall c hc).1
  · exact hne

/-! ### Quoted strings -/

section

variable {quote : Char} (hquote : isQuote quote = true) {content : Text} (hcontent : Unbroken content)

include hquote

theorem structure_of_isQuote :
    isStructural quote = false ∧ isBlank quote = false ∧ isLineBreak quote = false := by
  rcases eq_of_isQuote hquote with rfl | rfl <;> decide

theorem trimmed_quoted : Text.Trimmed (quoted quote content) := by
  have hblank := (structure_of_isQuote hquote).2.1
  constructor
  · intro c hc
    obtain rfl : quote = c := Option.some.inj hc
    exact hblank
  · intro c hc
    rw [quoted, ← List.cons_append, List.getLast?_concat] at hc
    obtain rfl : quote = c := Option.some.inj hc
    exact hblank

include hcontent

theorem role_of_mem_quoted {comments : Bool} {r : Role}
    (hr : r ∈ roles comments .code (quoted quote content)) : r = .delimiter ∨ r = .content := by
  rw [roles_quoted_self hquote hcontent.not_mem_lineFeed] at hr
  simp only [List.mem_cons, List.mem_append, List.mem_replicate, List.not_mem_nil, or_false] at hr
  tauto

theorem unbroken_quoted : Unbroken (quoted quote content) := by
  have hbody : Unbroken (content.flatMap escapeChar) := by
    intro c hc
    obtain ⟨d, hd, hcd⟩ := List.mem_flatMap.1 hc
    -- A character that is escaped has a backslash in front of it, which ends no line either.
    unfold escapeChar at hcd
    split at hcd
    · rcases List.mem_cons.1 hcd with rfl | hcd
      · rfl
      · rw [List.mem_singleton.1 hcd]
        exact hcontent d hd
    · rw [List.mem_singleton.1 hcd]
      exact hcontent d hd
  have hbreak := (structure_of_isQuote hquote).2.2
  apply unbroken_cons.2
  refine ⟨hbreak, unbroken_append.2 ⟨hbody, ?_⟩⟩
  exact unbroken_cons.2 ⟨hbreak, unbroken_nil⟩

/-- Of a quoted string only the quotes are visible. -/
theorem shown_quoted :
    ∀ p ∈ markedFrom .code (quoted quote content), isStructural p.2 = false := by
  intro p hp
  have hmask := (List.of_mem_zip hp).2
  rw [roles_quoted_self hquote hcontent.not_mem_lineFeed, quoted, List.zipWith_cons_cons,
    List.zipWith_append (by simp)] at hmask
  -- What is between the quotes is shown as spaces.
  have hspace : ∀ body : Text, ∀ c ∈ List.zipWith maskChar body
      (List.replicate body.length .content), c = ' ' := by
    intro body
    induction body with
    | nil => simp
    | cons c body ih => simpa [List.replicate_succ, maskChar] using ih
  have hshown := (structure_of_isQuote hquote).1
  rcases List.mem_cons.1 hmask with h | h
  · rw [h]
    exact hshown
  rcases List.mem_append.1 h with h | h
  · rw [hspace _ _ h]
    rfl
  · rw [List.mem_singleton.1 h]
    exact hshown

theorem word_quoted : Word (quoted quote content) where
  standalone comments := standalone_quoted comments hquote hcontent.not_mem_lineFeed
  -- No character of the string belongs to a comment, and none of them is code.
  keptText_eq := by
    rw [keptText_eq_filter, List.filter_eq_self.2]
    · exact List.map_fst_zip (by simp)
    · intro p hp
      rcases role_of_mem_quoted hquote hcontent (List.of_mem_zip hp).2 with h | h <;> simp [h]
  shown := shown_quoted hquote hcontent
  braces_eq comments := by
    rw [braces_eq_filter, List.filter_eq_nil_iff.2]
    · rfl
    · intro p hp
      rcases role_of_mem_quoted hquote hcontent (List.of_mem_zip hp).2 with h | h <;> simp [h]
  unbroken := unbroken_quoted hquote hcontent
  ne_nil := List.cons_ne_nil _ _
  trimmed := trimmed_quoted hquote

end

theorem word_scalar (value : Scalar) : Word value.text := by
  cases value with
  | number n => exact word_numeral n
  | boolean b => cases b <;> exact word_of_all (by decide) (by decide)
  | nil => exact word_of_all (by decide) (by decide)
  | string quote content hquote hcontent => exact word_quoted hquote hcontent

/-! ## §2 Tokens -/

/-- The braces of a token. -/
def Token.braces : Token → Text
  | .opening => ['{']
  | .closing => ['}']
  | _ => []

theorem inCode_singleton {c : Char} (hc : isBare c = true) (comments : Bool) :
    InCode comments [c] := by
  apply inCode_of_isBare
  intro d hd
  rwa [List.mem_singleton.1 hd]

theorem Token.standalone (t : Token) (comments : Bool) : Standalone comments t.text := by
  cases t with
  | key i => exact (word_identifier i).standalone comments
  | scalar value => exact (word_scalar value).standalone comments
  | _ => exact (inCode_singleton rfl comments).standalone

theorem Token.braces_eq (t : Token) (comments : Bool) :
    Lexis.braces comments .code t.text = t.braces := by
  cases t with
  | key i => exact (word_identifier i).braces_eq comments
  | scalar value => exact (word_scalar value).braces_eq comments
  | _ => exact (inCode_singleton rfl comments).braces_eq

theorem Token.keptText_eq (t : Token) : keptText .code t.text = t.text := by
  cases t with
  | key i => exact (word_identifier i).keptText_eq
  | scalar value => exact (word_scalar value).keptText_eq
  | _ => exact (inCode_singleton rfl true).keptText_eq

theorem Token.unbroken (t : Token) : Unbroken t.text := by
  cases t with
  | key i => exact (word_identifier i).unbroken
  | scalar value => exact (word_scalar value).unbroken
  | _ => exact unbroken_cons.2 ⟨rfl, unbroken_nil⟩

theorem Token.ne_nil (t : Token) : t.text ≠ [] := by
  cases t with
  | key i => exact (word_identifier i).ne_nil
  | scalar value => exact (word_scalar value).ne_nil
  | _ => exact List.cons_ne_nil _ _

theorem Token.trimmed (t : Token) : Text.Trimmed t.text := by
  cases t with
  | key i => exact (word_identifier i).trimmed
  | scalar value => exact (word_scalar value).trimmed
  | _ =>
    constructor <;>
    · intro c hc
      obtain rfl := Option.some.inj hc
      rfl

/-! ## §3 Tokens with blanks around them -/

/-- The text consists of the tokens and of blanks. -/
inductive Laid : List Token → Text → Prop where
  | blanks {b : Text} (hb : Text.AllBlank b) : Laid [] b
  | token {b : Text} (hb : Text.AllBlank b) (t : Token) {ts : List Token} {u : Text}
      (h : Laid ts u) : Laid (t :: ts) (b ++ (t.text ++ u))

theorem laid_nil : Laid [] [] := .blanks Text.allBlank_nil

theorem allBlank_of_laid {w : Text} (h : Laid [] w) : Text.AllBlank w := by
  cases h with
  | blanks hb => exact hb

theorem Laid.cons {ts : List Token} {w : Text} (t : Token) (h : Laid ts w) :
    Laid (t :: ts) (t.text ++ w) :=
  .token Text.allBlank_nil t h

theorem Laid.blanks_append {ts : List Token} {b w : Text} (hb : Text.AllBlank b) (h : Laid ts w) :
    Laid ts (b ++ w) := by
  cases h with
  | blanks hw => exact .blanks (Text.allBlank_append.2 ⟨hb, hw⟩)
  | token hb' t h =>
    rw [← List.append_assoc]
    exact .token (Text.allBlank_append.2 ⟨hb, hb'⟩) t h

theorem Laid.append {ts us : List Token} {w v : Text} (h : Laid ts w) (h' : Laid us v) :
    Laid (ts ++ us) (w ++ v) := by
  induction h with
  | blanks hb => exact h'.blanks_append hb
  | token hb t _ ih =>
    rw [List.append_assoc, List.append_assoc]
    exact .token hb t ih

theorem Laid.exists_append {ts us : List Token} {w : Text} (h : Laid (ts ++ us) w) :
    ∃ w₁ w₂, w = w₁ ++ w₂ ∧ Laid ts w₁ ∧ Laid us w₂ := by
  induction ts generalizing w with
  | nil => exact ⟨[], w, rfl, laid_nil, h⟩
  | cons t ts ih =>
    cases h with
    | @token b hb _ _ u h =>
      obtain ⟨w₁, w₂, rfl, h₁, h₂⟩ := ih h
      exact ⟨b ++ (t.text ++ w₁), w₂, by simp, .token hb t h₁, h₂⟩

theorem Laid.exists_cons {t : Token} {ts : List Token} {w : Text} (h : Laid (t :: ts) w) :
    ∃ b u, w = b ++ (t.text ++ u) ∧ Text.AllBlank b ∧ Laid ts u := by
  cases h with
  | @token b hb _ _ u h => exact ⟨b, u, rfl, hb, h⟩

/-- In front of a token there is a text of the tokens in front of it. -/
theorem Laid.exists_token {ts us : List Token} {t : Token} {w : Text}
    (h : Laid (ts ++ t :: us) w) : ∃ v u, w = v ++ (t.text ++ u) ∧ Laid ts v ∧ Laid us u := by
  obtain ⟨v, w', rfl, hv, hw'⟩ := h.exists_append
  obtain ⟨b, u, rfl, hb, hu⟩ := hw'.exists_cons
  have hvb := hv.append (.blanks hb)
  rw [List.append_nil] at hvb
  exact ⟨v ++ b, u, by simp, hvb, hu⟩

/-- Lines that consist of tokens and blanks, joined. -/
theorem laid_join {segments : List (List Token)} {lines : List Text}
    (h : List.Forall₂ Laid segments lines) : Laid segments.flatten (Text.join ['\n'] lines) := by
  induction h with
  | nil => exact laid_nil
  | @cons ts w segments lines hw rest ih =>
    cases rest with
    | nil => simpa [Text.join] using hw
    | cons hv rest =>
      have hbreak : Text.AllBlank ['\n'] := Text.allBlank_cons.2 ⟨rfl, Text.allBlank_nil⟩
      rw [Text.join_cons_cons]
      exact hw.append (ih.blanks_append hbreak)

/-! ### Trimming -/

/-- Blanks at the end can be taken away. -/
theorem Laid.exists_end {ts : List Token} {w : Text} (h : Laid ts w) :
    ∃ v b, w = v ++ b ∧ Text.AllBlank b ∧ Laid ts v ∧ ∀ c ∈ v.getLast?, isBlank c = false := by
  induction h with
  | @blanks b hb => exact ⟨[], b, rfl, hb, laid_nil, by simp⟩
  | @token b hb t ts u _ ih =>
    obtain ⟨v, b', rfl, hb', hv, hlast⟩ := ih
    refine ⟨b ++ (t.text ++ v), b', by simp, hb', .token hb t hv, ?_⟩
    intro c hc
    rw [List.getLast?_append, List.getLast?_append] at hc
    -- The last character is that of the other tokens or, if there are none, that of `t`.
    cases hv' : v.getLast? with
    | some d =>
      rw [hv'] at hc
      exact hlast c (hv'.trans hc)
    | none =>
      obtain ⟨d, hd⟩ := Option.isSome_iff_exists.1 (List.getLast?_isSome.2 t.ne_nil)
      rw [hv', hd] at hc
      exact t.trimmed.last c (hd.trans hc)

/-- Trimming takes away blanks only. -/
theorem Laid.strip {ts : List Token} {w : Text} (h : Laid ts w) : Laid ts w.strip := by
  obtain ⟨v, b', rfl, hb', hv, hlast⟩ := h.exists_end
  cases hv with
  | blanks hb =>
    rw [Text.strip_eq_nil (Text.allBlank_append.2 ⟨hb, hb'⟩)]
    exact laid_nil
  | @token b hb t ts u hu =>
    -- The first token starts with no blank, and behind the last one there were only those that have been cut off.
    have htrimmed : Text.Trimmed (t.text ++ u) := by
      constructor
      · intro c hc
        rw [List.head?_append_of_ne_nil _ t.ne_nil] at hc
        exact t.trimmed.head c hc
      · intro c hc
        rw [List.getLast?_append_of_ne_nil _ (by simp [t.ne_nil])] at hlast
        exact hlast c hc
    rw [List.append_assoc, Text.strip_of_trimmed hb hb' htrimmed]
    exact hu.cons t

theorem strip_eq_nil_of_laid {w : Text} (h : Laid [] w) : w.strip = [] :=
  Text.strip_eq_nil (allBlank_of_laid h)

/-- A trimmed text starts with its first token. -/
theorem Laid.exists_of_trimmed {t : Token} {ts : List Token} {w : Text} (h : Laid (t :: ts) w)
    (hw : Text.Trimmed w) : ∃ u, w = t.text ++ u ∧ Laid ts u := by
  obtain ⟨b, u, rfl, hb, hu⟩ := h.exists_cons
  cases b with
  | nil => exact ⟨u, rfl, hu⟩
  | cons c b =>
    have hc := hb c List.mem_cons_self
    rw [hw.head c rfl] at hc
    cases hc

/-- A trimmed text of one token is the token. -/
theorem Laid.strip_eq_text {t : Token} {w : Text} (h : Laid [t] w) : w.strip = t.text := by
  obtain ⟨b, u, rfl, hb, hu⟩ := h.exists_cons
  exact Text.strip_of_trimmed hb (allBlank_of_laid hu) t.trimmed

theorem Laid.strip_ne_nil {t : Token} {ts : List Token} {w : Text} (h : Laid (t :: ts) w) :
    w.strip ≠ [] := by
  obtain ⟨u, hu, -⟩ := h.strip.exists_of_trimmed (Text.trimmed_strip w)
  rw [hu]
  simp [t.ne_nil]

/-! ### Reading -/

section

variable {ts : List Token} {w : Text} (h : Laid ts w)

include h

theorem Laid.standalone (comments : Bool) : Standalone comments w := by
  induction h with
  | blanks hb => exact (inCode_of_allBlank hb).standalone
  | token hb t _ ih =>
    exact (inCode_of_allBlank hb).standalone.append ((t.standalone comments).append ih)

theorem Laid.keptText_eq : keptText .code w = w := by
  induction h with
  | blanks hb => exact (inCode_of_allBlank hb).keptText_eq
  | @token b hb t ts u _ ih =>
    have hblanks : InCode true b := inCode_of_allBlank hb
    rw [hblanks.standalone.keptText_append, hblanks.keptText_eq, (t.standalone true).keptText_append,
      t.keptText_eq, ih]

/-- The braces of the text are those of its tokens. -/
theorem Laid.braces_eq (comments : Bool) : braces comments .code w = ts.flatMap Token.braces := by
  induction h with
  | blanks hb => exact braces_eq_nil_of_allBlank comments .code hb
  | token hb t _ ih =>
    rw [braces_blanks (ignoresBlanks_code comments) hb, (t.standalone comments).braces_append,
      t.braces_eq, ih, List.flatMap_cons]

end

/-- With spaces in place of its line feeds the text consists of the same tokens. -/
theorem Laid.replace_lineFeed {ts : List Token} {w : Text} (h : Laid ts w) :
    Laid ts (Text.replaceChar '\n' ' ' w) := by
  have hblank : ∀ {b : Text}, Text.AllBlank b → Text.AllBlank (Text.replaceChar '\n' ' ' b) := by
    intro b hb c hc
    obtain ⟨d, hd, rfl⟩ := List.mem_map.1 hc
    split
    · rfl
    · exact hb d hd
  induction h with
  | blanks hb => exact .blanks (hblank hb)
  | @token b hb t ts u _ ih =>
    -- Line feeds stand between tokens, never in one.
    have htext : Text.replaceChar '\n' ' ' t.text = t.text := by
      refine (List.map_congr_left fun c hc => if_neg ?_).trans (List.map_id _)
      exact (ne_of_isLineBreak_eq_false (t.unbroken c hc)).1
    rw [Text.replaceChar, List.map_append, List.map_append]
    show Laid (t :: ts) (Text.replaceChar '\n' ' ' b ++
      (Text.replaceChar '\n' ' ' t.text ++ Text.replaceChar '\n' ' ' u))
    rw [htext]
    exact .token (hblank hb) t ih

end LuaAccessors.TableLiteral
