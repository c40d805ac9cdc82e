import LuaAccessors.Proofs.TableLiteral.Laid
import LuaAccessors.TableLiteral.Field

/-!
# The fields of a printed table

The content of a table that is written as tokens between blanks is cut at the commas of the table
itself, each entry is cut at its first equality sign, and the value of an entry is a scalar or a table
again. So the fields that are read are those of the tree.

- `depthBehind?`: the depth along the tokens of an entry, which has no comma of its own;
- `splitEntries_cons`, `splitKeyed?_key`: the content cut into entries, an entry cut at its sign;
- `Laid.trimOuterBraces`, `Laid.contentFromBrace`: what is between the braces of a table;
- `inferValueType_scalar`: the kinds of scalars;
- `readsBack`, `parseFields_eq_fieldsOf`: the whole reading.
-/

namespace LuaAccessors.TableLiteral

open Lexis

/-! ## §1 The depth along tokens -/

/-- The depth of braces behind a token that stands at some depth; nothing if the token ends what it
stands in: a comma ends an entry, and a closing brace ends a table. -/
def Token.depthBehind? (depth : Nat) : Token → Option Nat
  | .opening => some (depth + 1)
  | .closing => if depth = 0 then none else some (depth - 1)
  | .comma => if depth = 0 then none else some depth
  | _ => some depth

/-- The depth of braces behind some tokens. -/
def depthBehind? (depth : Nat) (ts : List Token) : Option Nat := ts.foldlM Token.depthBehind? depth

theorem depthBehind?_append (depth : Nat) (ts us : List Token) :
    depthBehind? depth (ts ++ us) = (depthBehind? depth ts).bind (depthBehind? · us) :=
  List.foldlM_append

theorem depthBehind?_cons (depth : Nat) (t : Token) (ts : List Token) :
    depthBehind? depth (t :: ts) = (t.depthBehind? depth).bind (depthBehind? · ts) := rfl

theorem tokensOf_cons (trailing : Bool) (e : Entry) (es : List Entry) :
    tokensOf trailing (e :: es) =
      e.tokens ++ if es.isEmpty && !trailing then [] else .comma :: tokensOf trailing es := rfl

/-- Inside a table the tokens of its entries lead back to the depth where they start. -/
theorem depthBehind?_tokensOf {entries : List Entry}
    (h : ∀ e ∈ entries, ∀ depth, depthBehind? depth e.tokens = some depth) (trailing : Bool)
    (depth : Nat) : depthBehind? (depth + 1) (tokensOf trailing entries) = some (depth + 1) := by
  induction entries with
  | nil => rfl
  | cons e es ih =>
    rw [tokensOf_cons, depthBehind?_append, h e List.mem_cons_self, Option.bind_some]
    split
    · rfl
    · exact ih fun d hd => h d (List.mem_cons_of_mem _ hd)

/-- An entry leads back to the depth where it starts, and nothing in it ends it. -/
theorem depthBehind?_tokens (e : Entry) (depth : Nat) :
    depthBehind? depth e.tokens = some depth := by
  induction e using Entry.induction generalizing depth with
  | positional value => rfl
  | scalar key value => rfl
  | table key entries trailing ih =>
    have hinside := depthBehind?_tokensOf ih trailing depth
    show depthBehind? (depth + 1) (tokensOf trailing entries ++ [.closing]) = some depth
    rw [depthBehind?_append, hinside]
    rfl

/-- The tokens of an entry close no table around it. -/
theorem depthInside?_of_depthBehind {depth d : Nat} {ts : List Token}
    (h : depthBehind? depth ts = some d) : depthInside? depth (ts.flatMap Token.braces) = some d := by
  induction ts generalizing depth with
  | nil => exact h
  | cons t ts ih =>
    rw [depthBehind?_cons] at h
    obtain ⟨next, hnext, hrest⟩ := Option.bind_eq_some_iff.1 h
    have ih' := ih hrest
    -- A comma inside a table of the entry changes no depth.
    cases t with
    | opening =>
      obtain rfl := Option.some.inj hnext
      exact ih'
    | closing =>
      cases depth with
      | zero => cases hnext
      | succ depth =>
        obtain rfl := Option.some.inj hnext
        exact ih'
    | comma =>
      cases depth with
      | zero => cases hnext
      | succ depth =>
        obtain rfl := Option.some.inj hnext
        exact ih'
    | _ =>
      obtain rfl := Option.some.inj hnext
      exact ih'

/-- The entries of a table do not close it. -/
theorem depthInside?_tokensOf (trailing : Bool) (entries : List Entry) :
    depthInside? 0 ((tokensOf trailing entries).flatMap Token.braces) = some 0 := by
  induction entries with
  | nil => rfl
  | cons e es ih =>
    have hentry := depthInside?_of_depthBehind (depthBehind?_tokens e 0)
    rw [tokensOf_cons, List.flatMap_append, depthInside?_append, hentry, Option.bind_some]
    split
    · rfl
    · exact ih

/-! ## §2 What tokens and blanks show -/

theorem isStructural_eq_false_of_isBlank {c : Char} (hc : isBlank c = true) :
    isStructural c = false := by
  simp [isStructural, isBrace_eq_false_of_isBlank hc, ne_of_isBlank hc (d := ',') rfl,
    ne_of_isBlank hc (d := '=') rfl]

/-- Blanks show nothing that structures a table. -/
theorem shown_of_allBlank {b : Text} (hb : Text.AllBlank b) :
    ∀ p ∈ markedFrom .code b, isStructural p.2 = false := by
  rw [(inCode_of_allBlank hb).markedFrom_eq]
  intro p hp
  obtain ⟨c, hc, rfl⟩ := List.mem_map.1 hp
  exact isStructural_eq_false_of_isBlank (hb c hc)

theorem ne_of_isStructural_eq_false {c : Char} (h : isStructural c = false) :
    c ≠ '{' ∧ c ≠ '}' ∧ c ≠ ',' ∧ c ≠ '=' := by
  simpa [isStructural, isBrace, and_assoc] using h

/-- A token is marked on its own, and so is the blank in front of it. -/
theorem markedFrom_token {b : Text} (hb : Text.AllBlank b) (t : Token) (u : Text) :
    markedFrom .code (b ++ (t.text ++ u)) =
      markedFrom .code b ++ (markedFrom .code t.text ++ markedFrom .code u) := by
  rw [(inCode_of_allBlank hb).standalone.markedFrom_append, (t.standalone false).markedFrom_append]

theorem markedFrom_laid {ts : List Token} {w : Text} (h : Laid ts w) (t : Token) (u : Text) :
    markedFrom .code (w ++ (t.text ++ u)) =
      markedFrom .code w ++ (markedFrom .code t.text ++ markedFrom .code u) := by
  rw [(h.standalone false).markedFrom_append, (t.standalone false).markedFrom_append]

/-- A token that shows no structure shows none with blanks around it. -/
theorem shown_of_laid {t : Token} {w : Text} (h : Laid [t] w)
    (ht : ∀ p ∈ markedFrom .code t.text, isStructural p.2 = false) :
    ∀ p ∈ markedFrom .code w, isStructural p.2 = false := by
  obtain ⟨b, u, rfl, hb, hu⟩ := h.exists_cons
  intro p hp
  rw [markedFrom_token hb, List.mem_append, List.mem_append] at hp
  rcases hp with hp | hp | hp
  · exact shown_of_allBlank hb p hp
  · exact ht p hp
  · exact shown_of_allBlank (allBlank_of_laid hu) p hp

/-! ## §3 Cutting into entries

A printed table is a row of tokens in which commas end the entries. Between two of them all braces are closed,
so cutting at commas gives back the entries one by one.
-/

theorem cutAtCommas_ne_nil (depth : Nat) (m : Marked) : cutAtCommas depth m ≠ [] := by
  fun_cases cutAtCommas depth m <;> simp_all

theorem cutAtCommas_cons {depth : Nat} (c shown : Char) (h : ¬(shown = ',' ∧ depth = 0))
    (rest : Marked) : cutAtCommas depth ((c, shown) :: rest) =
      (cutAtCommas (braceDepth depth shown) rest).modifyHead (c :: ·) := by
  obtain ⟨piece, pieces, hpieces⟩ :=
    List.exists_cons_of_ne_nil (cutAtCommas_ne_nil (braceDepth depth shown) rest)
  rw [cutAtCommas, if_neg h, hpieces]
  rfl

/-- What shows no structure belongs to the first piece. -/
theorem cutAtCommas_append {m : Marked} (h : ∀ p ∈ m, isStructural p.2 = false) (depth : Nat)
    (rest : Marked) :
    cutAtCommas depth (m ++ rest) = (cutAtCommas depth rest).modifyHead (m.text ++ ·) := by
  induction m with
  | nil =>
    obtain ⟨piece, pieces, hpieces⟩ := List.exists_cons_of_ne_nil (cutAtCommas_ne_nil depth rest)
    rw [List.nil_append, hpieces]
    rfl
  | cons p m ih =>
    obtain ⟨c, shown⟩ := p
    obtain ⟨hopen, hclose, hcomma, -⟩ := ne_of_isStructural_eq_false (h _ List.mem_cons_self)
    -- What is shown is no brace and no comma, so neither the depth nor the piece changes.
    have hdepth : braceDepth depth shown = depth := by simp [braceDepth, hopen, hclose]
    rw [List.cons_append, cutAtCommas_cons c shown (fun h' => hcomma h'.1), hdepth,
      ih fun q hq => h q (List.mem_cons_of_mem _ hq), List.modifyHead_modifyHead]
    rfl

/-- A token that ends nothing belongs to the first piece. -/
theorem Token.cutAtCommas_append {t : Token} {depth d : Nat} (h : t.depthBehind? depth = some d)
    (rest : Marked) : cutAtCommas depth (markedFrom .code t.text ++ rest) =
      (cutAtCommas d rest).modifyHead (t.text ++ ·) := by
  cases t with
  | opening =>
    obtain rfl := Option.some.inj h
    exact cutAtCommas_cons '{' '{' (by simp) rest
  | closing =>
    cases depth with
    | zero => cases h
    | succ depth =>
      obtain rfl := Option.some.inj h
      exact cutAtCommas_cons '}' '}' (by simp) rest
  -- A comma at depth zero would end the piece.
  | comma =>
    cases depth with
    | zero => cases h
    | succ depth =>
      obtain rfl := Option.some.inj h
      exact cutAtCommas_cons ',' ',' (by simp) rest
  | equals =>
    obtain rfl := Option.some.inj h
    exact cutAtCommas_cons '=' '=' (by simp) rest
  -- A word shows no sign at all.
  | key i =>
    obtain rfl := Option.some.inj h
    have happend := TableLiteral.cutAtCommas_append (word_identifier i).shown depth rest
    rwa [text_markedFrom] at happend
  | scalar value =>
    obtain rfl := Option.some.inj h
    have happend := TableLiteral.cutAtCommas_append (word_scalar value).shown depth rest
    rwa [text_markedFrom] at happend

/-- Tokens that end nothing belong to the first piece. -/
theorem Laid.cutAtCommas_append {ts : List Token} {w : Text} (h : Laid ts w) {depth d : Nat}
    (hdepth : depthBehind? depth ts = some d) (rest : Marked) :
    cutAtCommas depth (markedFrom .code w ++ rest) =
      (cutAtCommas d rest).modifyHead (w ++ ·) := by
  -- Token by token, with the blanks in front of each. What is not cut is put in front of the first piece.
  induction h generalizing depth with
  | blanks hb =>
    obtain rfl := Option.some.inj hdepth
    have happend := TableLiteral.cutAtCommas_append (shown_of_allBlank hb) depth rest
    rwa [text_markedFrom] at happend
  | @token b hb t ts u _ ih =>
    obtain ⟨next, hnext, hrest⟩ := Option.bind_eq_some_iff.1 hdepth
    have happend := TableLiteral.cutAtCommas_append (shown_of_allBlank hb) depth
      (markedFrom .code t.text ++ (markedFrom .code u ++ rest))
    rw [text_markedFrom] at happend
    rw [markedFrom_token hb, List.append_assoc, List.append_assoc, happend,
      Token.cutAtCommas_append hnext, ih hrest, List.modifyHead_modifyHead, List.modifyHead_modifyHead]
    congr 1
    funext piece
    simp

/-- Without a comma of its own the text is one piece. -/
theorem splitEntries_last {ts : List Token} {w : Text} (h : Laid ts w) {d : Nat}
    (hdepth : depthBehind? 0 ts = some d) :
    splitEntries w = if w.strip.isEmpty then [] else [w.strip] := by
  have hcut := h.cutAtCommas_append hdepth []
  rw [List.append_nil] at hcut
  rw [splitEntries, marked_eq, hcut]
  by_cases hempty : w.strip.isEmpty = true <;> simp [TableLiteral.cutAtCommas, hempty]

/-- The first comma ends the first entry. -/
theorem splitEntries_cons {ts us : List Token} {w : Text} (h : Laid (ts ++ .comma :: us) w)
    (hdepth : depthBehind? 0 ts = some 0) :
    ∃ v u, Laid ts v ∧ Laid us u ∧
      splitEntries w = (if v.strip.isEmpty then [] else [v.strip]) ++ splitEntries u := by
  obtain ⟨v, u, rfl, hv, hu⟩ := h.exists_token
  refine ⟨v, u, hv, hu, ?_⟩
  have hmarked := markedFrom_laid hv .comma u
  rw [splitEntries, marked_eq, hmarked, hv.cutAtCommas_append hdepth]
  show ((([] :: cutAtCommas 0 (marked u)).modifyHead (v ++ ·)).map Text.strip).filter _ = _
  rw [List.modifyHead_cons, List.append_nil, List.map_cons, List.filter_cons, splitEntries]
  by_cases hempty : v.strip.isEmpty = true <;> simp [hempty]

/-! ## §4 The name and the value of an entry -/

/-- A keyed entry is cut at its equality sign. -/
theorem splitKeyed?_key {key : Identifier} {ts : List Token} {w : Text}
    (h : Laid (.key key :: .equals :: ts) w) :
    ∃ v, Laid ts v ∧ splitKeyed? w = some (key.text, v.strip) := by
  obtain ⟨n, v, rfl, hn, hv⟩ := @Laid.exists_token [.key key] _ _ _ h
  refine ⟨v, hv, ?_⟩
  have hmarked := markedFrom_laid hn .equals v
  -- No equality sign is visible in front of the one behind the key.
  have hname : ∀ p ∈ markedFrom .code n, (p.2 != '=') = true := by
    intro p hp
    have hshown := shown_of_laid hn (word_identifier key).shown p hp
    simpa using (ne_of_isStructural_eq_false hshown).2.2.2
  have hkey : (key.text).isEmpty = false := by simp [Identifier.text]
  simp only [splitKeyed?]
  rw [marked_eq, hmarked, List.dropWhile_append_of_pos hname, List.takeWhile_append_of_pos hname]
  show (if (Marked.text (markedFrom .code n ++ [])).strip.isEmpty then none
    else some ((Marked.text (markedFrom .code n ++ [])).strip,
      (Marked.text (markedFrom .code v)).strip)) = _
  rw [List.append_nil, text_markedFrom, text_markedFrom, hn.strip_eq_text]
  show (if key.text.isEmpty then none else some (key.text, v.strip)) = _
  rw [hkey]
  rfl

/-- A positional entry has no name. -/
theorem splitKeyed?_scalar {value : Scalar} {w : Text} (h : Laid [.scalar value] w) :
    splitKeyed? w = none := by
  have hshown : ∀ p ∈ marked w, (p.2 != '=') = true := by
    intro p hp
    have hshown := shown_of_laid h (word_scalar value).shown p hp
    simpa using (ne_of_isStructural_eq_false hshown).2.2.2
  simp only [splitKeyed?]
  rw [List.dropWhile_eq_nil_iff.2 hshown]

/-! ## §5 The content of a value -/

/-- A table as it is marked: its outer braces, and what is between them. -/
theorem Laid.exists_table {ts : List Token} {w : Text}
    (h : Laid (.opening :: (ts ++ [.closing])) w) :
    ∃ b content b', marked w = markedFrom .code b ++ ('{', '{') ::
        (markedFrom .code content ++ ('}', '}') :: markedFrom .code b') ∧
      (∀ p ∈ markedFrom .code b, (p.2 != '{') = true) ∧ Laid ts content ∧ Laid [] b' := by
  obtain ⟨b, u, rfl, hb, hu⟩ := h.exists_cons
  obtain ⟨content, b', rfl, hcontent, hb'⟩ := hu.exists_token
  refine ⟨b, content, b', ?_, ?_, hcontent, hb'⟩
  · rw [marked_eq, markedFrom_token hb, markedFrom_laid hcontent]
    rfl
  · intro p hp
    simpa using (ne_of_isStructural_eq_false (shown_of_allBlank hb p hp)).1

/-- Between the outer braces of a table are the tokens of its entries. -/
theorem Laid.trimOuterBraces {ts : List Token} {w : Text}
    (h : Laid (.opening :: (ts ++ [.closing])) w) : Laid ts (trimOuterBraces w) := by
  obtain ⟨b, content, b', hmarked, hopen, hcontent, hb'⟩ := h.exists_table
  -- Behind the closing brace are blanks, so looking from the end finds it first.
  have hclose : ∀ p ∈ (markedFrom .code b').reverse, (p.2 != '}') = true := by
    intro p hp
    have hshown := shown_of_allBlank (allBlank_of_laid hb') p (List.mem_reverse.1 hp)
    simpa using (ne_of_isStructural_eq_false hshown).2.1
  unfold TableLiteral.trimOuterBraces
  rw [hmarked, List.dropWhile_append_of_pos hopen]
  simp only [bne_self_eq_false, Bool.false_eq_true, not_false_eq_true, List.dropWhile_cons_of_neg]
  rw [List.reverse_append, List.reverse_cons, List.append_assoc, List.dropWhile_append_of_pos hclose]
  simpa using hcontent

/-- Between the brace that opens a table and the one that closes it are the tokens of its entries. -/
theorem Laid.contentFromBrace {ts : List Token} {w : Text}
    (h : Laid (.opening :: (ts ++ [.closing])) w)
    (hts : depthInside? 0 (ts.flatMap Token.braces) = some 0) :
    Laid ts (contentFromBrace (marked w)) := by
  obtain ⟨b, content, b', hmarked, hopen, hcontent, -⟩ := h.exists_table
  -- The visible braces of the content are those of its tokens, all of which are closed.
  have hshown : shownBraces (markedFrom .code content) = ts.flatMap Token.braces :=
    (shownBraces_code content).trans (hcontent.braces_eq false)
  have hinside := (walk_of_depthInside (shown_markedFrom .code content) (hshown ▸ hts)
    (('}', '}') :: markedFrom .code b')).1
  unfold TableLiteral.contentFromBrace
  rw [hmarked, List.dropWhile_append_of_pos hopen]
  simp only [bne_self_eq_false, Bool.false_eq_true, not_false_eq_true, List.dropWhile_cons_of_neg]
  rw [hinside, text_markedFrom, contentWithin_cons, if_neg (by decide), if_neg (by decide), if_pos rfl,
    if_pos rfl, List.append_nil]
  exact hcontent.replace_lineFeed

/-- What starts with a brace is a table. -/
theorem inferValueType_table {ts : List Token} {w : Text} (h : Laid (.opening :: ts) w) :
    inferValueType w = .table := by
  obtain ⟨u, hu, -⟩ := h.strip.exists_of_trimmed (Text.trimmed_strip w)
  unfold inferValueType
  rw [hu]
  rfl

/-- Nothing else is taken for a table. -/
theorem head?_of_inferValueType {value : Text} (hvalue : Text.Trimmed value)
    (h : inferValueType value = .table) : value.head? = some '{' := by
  unfold inferValueType at h
  rw [Text.strip_eq_self hvalue] at h
  dsimp only at h
  split at h
  · assumption
  · repeat' split at h
    all_goals cases h

theorem isDecimalDigit_of_isDigit {c : Char} (hc : c.isDigit = true) : isDecimalDigit c = true := by
  have hpart : isNamePart c = true := by simp [isNamePart, Char.isAlphanum, hc]
  have hlow : c.toNat < 0x80 := by
    have := (toNat_of_isNamePart hpart).2
    omega
  rw [isDecimalDigit, if_pos hlow, hc]

/-- A numeral is a number literal. -/
theorem isNumberLiteral_text (n : Numeral) : isNumberLiteral n.text = true := by
  have hfirst := isDecimalDigit_of_isDigit n.isDigit_first
  have hothers : ∀ c ∈ n.others, isDecimalDigit c = true :=
    fun c hc => isDecimalDigit_of_isDigit (n.isDigit_others c hc)
  -- Only a sign that the numeral has itself is taken off.
  have hne : n.first ≠ '-' := by
    intro h
    have hdigit := n.isDigit_first
    rw [h] at hdigit
    cases hdigit
  have hunsigned : (if n.text.head? = some '-' then n.text.tail else n.text) = n.unsigned := by
    unfold Numeral.text
    split
    · rfl
    · exact if_neg fun h => hne (Option.some.inj h)
  unfold isNumberLiteral
  simp only [hunsigned, Numeral.unsigned, hfirst, Bool.true_and]
  rw [List.dropWhile_append_of_pos hothers]
  cases hfraction : n.fraction with
  | none => rfl
  | some t =>
    have hall : t.all isDecimalDigit = true := List.all_eq_true.2 fun c hc =>
      isDecimalDigit_of_isDigit (n.isDigit_fraction t hfraction c hc)
    exact hall

/-- The kind of a numeral is read off its characters, of which the first is a digit or a sign. -/
theorem inferValueType_numeral (n : Numeral) (hstrip : n.text.strip = n.text) :
    inferValueType n.text = .number := by
  -- All tests that come before the one for numbers ask for another first character.
  obtain ⟨c, t, htext, hc⟩ : ∃ c t, n.text = c :: t ∧ (c.isDigit = true ∨ c = '-') := by
    unfold Numeral.text
    split
    · exact ⟨'-', n.unsigned, rfl, .inr rfl⟩
    · exact ⟨n.first, _, rfl, .inl n.isDigit_first⟩
  have hne : ∀ d : Char, d.isDigit = false → d ≠ '-' → c ≠ d := by
    rintro d hd hdash rfl
    rcases hc with hc | hc
    · rw [hd] at hc
      cases hc
    · exact hdash hc
  have hnumber := isNumberLiteral_text n
  rw [htext] at hnumber hstrip ⊢
  simp [inferValueType, hstrip, hnumber, Lexis.isQuote, hne '{' rfl (by decide),
    hne '"' rfl (by decide), hne '\'' rfl (by decide), hne 't' rfl (by decide),
    hne 'f' rfl (by decide), hne 'n' rfl (by decide),
    bracketLevel_cons_eq_none (hne '[' rfl (by decide))]

/-- The kind of a scalar is read off its text. -/
theorem inferValueType_scalar {value : Scalar} {w : Text} (h : Laid [.scalar value] w) :
    inferValueType w.strip = value.valueType := by
  rw [h.strip_eq_text]
  show inferValueType value.text = value.valueType
  cases value with
  | number n => exact inferValueType_numeral n (Text.strip_eq_self (word_numeral n).trimmed)
  | boolean b => cases b <;> rfl
  | nil => rfl
  | string quote content hquote hcontent =>
    have hstrip := Text.strip_eq_self (word_quoted hquote hcontent).trimmed
    show inferValueType (quoted quote content) = .string
    unfold inferValueType
    rw [hstrip]
    rcases eq_of_isQuote hquote with rfl | rfl <;> rfl

theorem valueType_ne_table (value : Scalar) : value.valueType ≠ .table := by
  cases value <;> simp [Scalar.valueType]

/-! ## §6 Fields

By induction on the entries that are printed: the value of an entry is a scalar, or a table whose content is a
row of tokens again.
-/

/-- The field of a keyed entry, where `types` gives the annotated types by name. -/
def annotatedField (types : Dictionary Text) (entry : Text × Text) : Field :=
  { name := entry.1
    valueType := resolveValueType entry.2 (types.get? entry.1)
    fields :=
      if resolveValueType entry.2 (types.get? entry.1) = .table ∧ inferValueType entry.2 = .table then
        parseFields (TableLiteral.trimOuterBraces entry.2) []
      else []
    explicitType := types.get? entry.1 }

/-- Every keyed entry is a field. -/
theorem parseFields_eq_map (content : Text) (types : Dictionary Text) :
    parseFields content types = (keyedEntries content).map (annotatedField types) := by
  have hattach : (keyedEntries content).attach.map (fun entry => annotatedField types entry.1) =
      (keyedEntries content).map (annotatedField types) := List.attach_map_val
  rw [parseFields, ← hattach]
  rfl

/-- The field of a keyed entry that has no annotated type. -/
def fieldOf (entry : Text × Text) : Field :=
  { name := entry.1
    valueType := inferValueType entry.2
    fields :=
      if inferValueType entry.2 = .table then parseFields (TableLiteral.trimOuterBraces entry.2) []
      else [] }

/-- Without annotations every keyed entry stands for itself. -/
theorem parseFields_eq (content : Text) :
    parseFields content [] = (keyedEntries content).map fieldOf := by
  rw [parseFields_eq_map]
  apply List.map_congr_left
  rintro ⟨name, value⟩ -
  simp [annotatedField, fieldOf, resolveValueType, Dictionary.get?]

theorem parseFields_nil : parseFields [] [] = [] := parseFields_eq []

/-- The fields of a content whose first entry is `entry`. -/
theorem parseFields_of_splitEntries {content entry u : Text}
    (h : splitEntries content = entry :: splitEntries u) :
    parseFields content [] = ((splitKeyed? entry).map fieldOf).toList ++ parseFields u [] := by
  rw [parseFields_eq, parseFields_eq, keyedEntries, keyedEntries, h]
  cases hkeyed : splitKeyed? entry <;> simp [hkeyed]

theorem exists_tokens (e : Entry) : ∃ t ts, e.tokens = t :: ts := by
  cases e with
  | positional value => exact ⟨_, _, rfl⟩
  | scalar key value => exact ⟨_, _, rfl⟩
  | table key entries trailing => exact ⟨_, _, rfl⟩

/-- The text of an entry is read as the field of the entry, if it has one. -/
def ReadsBack (e : Entry) : Prop :=
  ∀ w, Laid e.tokens w → ((splitKeyed? w.strip).map fieldOf).toList = e.fields

/-- The fields of some entries are read one after the other. -/
theorem parseFields_of_readsBack {entries : List Entry} (h : ∀ e ∈ entries, ReadsBack e)
    {trailing : Bool} {content : Text} (hcontent : Laid (tokensOf trailing entries) content) :
    parseFields content [] = fieldsOf entries := by
  induction entries generalizing content with
  | nil =>
    have hentries := splitEntries_last hcontent (d := 0) rfl
    rw [strip_eq_nil_of_laid hcontent] at hentries
    rw [parseFields_eq, keyedEntries, hentries]
    rfl
  | cons e es ih =>
    have hentry := h e List.mem_cons_self
    have hdepth := depthBehind?_tokens e 0
    have hnonempty : ∀ {w}, Laid e.tokens w → w.strip.isEmpty = false := by
      intro w hw
      obtain ⟨t, ts, htokens⟩ := exists_tokens e
      rw [htokens] at hw
      simpa using hw.strip_ne_nil
    show parseFields content [] = e.fields ++ fieldsOf es
    rw [tokensOf_cons] at hcontent
    -- The content is cut behind the first entry, and each part is read on its own.
    split at hcontent
    · -- No comma is behind the last entry.
      rename_i hlast
      obtain ⟨rfl, -⟩ : es = [] ∧ trailing = false := by simpa using hlast
      rw [List.append_nil] at hcontent
      have hsplit := splitEntries_last hcontent hdepth
      rw [hnonempty hcontent] at hsplit
      rw [parseFields_of_splitEntries (u := []) hsplit, hentry content hcontent, parseFields_nil]
      rfl
    · obtain ⟨v, u, hv, hu, hsplit⟩ := splitEntries_cons hcontent hdepth
      rw [hnonempty hv] at hsplit
      have hrest := ih (fun d hd => h d (List.mem_cons_of_mem _ hd)) hu
      rw [parseFields_of_splitEntries hsplit, hentry v hv, hrest]

/-- Every entry is read back. -/
theorem readsBack (e : Entry) : ReadsBack e := by
  -- A table is read back because its entries are, with the outer braces taken away.
  induction e using Entry.induction with
  | positional value =>
    intro w hw
    rw [splitKeyed?_scalar (hw.strip)]
    rfl
  | scalar key value =>
    intro w hw
    obtain ⟨v, hv, hkeyed⟩ := splitKeyed?_key hw.strip
    have htype := inferValueType_scalar hv
    rw [hkeyed]
    simp [fieldOf, htype, valueType_ne_table, Entry.fields]
  | table key entries trailing ih =>
    intro w hw
    obtain ⟨v, hv, hkeyed⟩ := splitKeyed?_key hw.strip
    have htype := inferValueType_table hv.strip
    have hfields := parseFields_of_readsBack ih hv.strip.trimOuterBraces
    rw [hkeyed]
    simp [fieldOf, htype, hfields, Entry.fields]

/-- **The fields of a printed table** are those of the tree, whatever blanks are between the tokens. -/
theorem parseFields_eq_fieldsOf {entries : List Entry} {trailing : Bool} {content : Text}
    (h : Laid (tokensOf trailing entries) content) : parseFields content [] = fieldsOf entries :=
  parseFields_of_readsBack (fun e _ => readsBack e) h

end LuaAccessors.TableLiteral
