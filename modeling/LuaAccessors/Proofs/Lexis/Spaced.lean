import Mathlib.Data.List.Chain
import Mathlib.Data.List.Forall2
import LuaAccessors.Literal
import LuaAccessors.Proofs.Lexis.LongBracket
import LuaAccessors.Proofs.Text.Strip

/-!
# Spaces between tokens

What a text says does not change if spaces are put between its tokens. Where that may be done is decided by
what stands on the two sides: not inside a word, a number or `==`, not where the two sides make up the start or
the end of a long bracket, and not behind a backslash.

- `fuses`, `joinsBracket`, `Apart`: two texts that a space may separate;
- `Spaced`: a text with spaces put into it, each between two parts that are apart;
- `Spaced.strip`, `Spaced.word`, `Spaced.bracket_iff`: how such a text is cut and read;
- `Spaced.inferValueType_eq`: as a value it is of the same kind;
- `Spaced.join`: texts over several lines.
-/

namespace LuaAccessors.Lexis

/-! ## §1 Parts that a space may separate -/

/-- A character that words and numbers are made of. -/
def isWordPart (c : Char) : Bool := isNamePart c || isAlphanumeric c || isDecimalDigit c

/-- Two characters that are part of one word, one number or one operator if they stand side by side. -/
def fuses (x y : Char) : Bool :=
  (isWordPart x && isWordPart y) || (isDecimalDigit x && y == '.') ||
    ((x == '-' || x == '.') && isDecimalDigit y) || (x == '=' && y == '=')

/-- Two brackets `d` come together, with nothing but equality signs between them. -/
def joinsBracket (d : Char) (before behind : Text) : Bool :=
  (before.reverse.dropWhile (· == '=')).head? == some d && (behind.dropWhile (· == '=')).head? == some d

/-- No token is cut where `behind` follows `before`. -/
structure Apart (before behind : Text) : Prop where
  backslash : before.getLast? ≠ some '\\'
  fuses_eq : ∀ x ∈ before.getLast?, ∀ y ∈ behind.head?, fuses x y = false
  opener : joinsBracket '[' before behind = false
  closer : joinsBracket ']' before behind = false

instance (before behind : Text) : Decidable (Apart before behind) :=
  decidable_of_iff (before.getLast? ≠ some '\\' ∧
      (before.getLast?.all fun x => behind.head?.all fun y => !fuses x y) = true ∧
      joinsBracket '[' before behind = false ∧ joinsBracket ']' before behind = false)
    ⟨fun h => ⟨h.1, by simpa [Option.all_eq_true] using h.2.1, h.2.2.1, h.2.2.2⟩,
      fun h => ⟨h.backslash, by simpa [Option.all_eq_true] using h.fuses_eq, h.opener, h.closer⟩⟩

theorem head?_dropWhile_append {p : Char → Bool} {t : Text} {d : Char}
    (h : (t.dropWhile p).head? = some d) (u : Text) : ((t ++ u).dropWhile p).head? = some d := by
  rw [List.dropWhile_append]
  split
  · rename_i hnil
    rw [List.isEmpty_iff.1 hnil] at h
    cases h
  · obtain ⟨v, hv⟩ := List.head?_eq_some_iff.1 h
    rw [hv]
    rfl

/-- Parts that are apart stay apart if less is seen of the one in front. -/
theorem Apart.of_suffix {before before' behind : Text} (h : Apart before' behind)
    (hsuffix : before <:+ before') : Apart before behind := by
  obtain ⟨front, rfl⟩ := hsuffix
  -- The last character of the shorter text is that of the longer one, and so is what stands in front of its
  -- equality signs.
  have hlast : ∀ x, before.getLast? = some x → (front ++ before).getLast? = some x := by
    intro x hx
    rw [List.getLast?_append, hx]
    rfl
  have hjoins : ∀ d, joinsBracket d (front ++ before) behind = false →
      joinsBracket d before behind = false := by
    intro d hd
    rw [Bool.eq_false_iff] at hd ⊢
    intro hjoins
    apply hd
    simp only [joinsBracket, Bool.and_eq_true, beq_iff_eq, List.reverse_append] at hjoins ⊢
    exact ⟨head?_dropWhile_append hjoins.1 _, hjoins.2⟩
  exact ⟨fun hx => h.backslash (hlast _ hx), fun x hx => h.fuses_eq x (hlast x hx), hjoins _ h.opener,
    hjoins _ h.closer⟩

/-- Parts that are apart stay apart if less is seen of the one behind. -/
theorem Apart.of_start {before behind behind' : Text} (h : Apart before behind')
    (hstart : behind <+: behind') : Apart before behind := by
  obtain ⟨rest, rfl⟩ := hstart
  -- What joins the shorter text to what is in front joins the longer one as well.
  have hjoins : ∀ d, joinsBracket d before (behind ++ rest) = false →
      joinsBracket d before behind = false := by
    intro d hd
    rw [Bool.eq_false_iff] at hd ⊢
    intro hjoins
    apply hd
    simp only [joinsBracket, Bool.and_eq_true, beq_iff_eq] at hjoins ⊢
    exact ⟨hjoins.1, head?_dropWhile_append hjoins.2 _⟩
  refine ⟨h.backslash, fun x hx y hy => ?_, hjoins _ h.opener, hjoins _ h.closer⟩
  apply h.fuses_eq x hx y
  obtain ⟨v, rfl⟩ := List.head?_eq_some_iff.1 (Option.mem_def.1 hy)
  rfl

theorem isWordPart_of_isNamePart {c : Char} (h : isNamePart c = true) : isWordPart c = true := by
  simp [isWordPart, h]

theorem fuses_of_isWordPart {x y : Char} (hx : isWordPart x = true) (hy : isWordPart y = true) :
    fuses x y = true := by
  simp [fuses, hx, hy]

/-- A space and a line feed are part of no token. -/
theorem fuses_eq_false {c : Char} (hc : c = ' ' ∨ c = '\n') (x : Char) :
    fuses x c = false ∧ fuses c x = false := by
  have hword : isWordPart c = false := by rcases hc with rfl | rfl <;> decide
  have hdigit : isDecimalDigit c = false := by rcases hc with rfl | rfl <;> decide
  rcases hc with rfl | rfl <;> simp [fuses, hword, hdigit]

/-- Nothing is apart where two characters fuse. -/
theorem not_apart_of_fuses {before behind : Text} {x y : Char} (hx : before.getLast? = some x)
    (hy : behind.head? = some y) (h : fuses x y = true) : ¬Apart before behind := by
  intro hapart
  rw [hapart.fuses_eq x hx y hy] at h
  cases h

/-! ## §2 Texts with spaces in them

The relation holds a text together with one into which spaces were put, and what stands in front of both. By
induction on it every function that cuts or tests a text does the same to both.
-/

/-- `Spaced before t t'`: behind `before` the text `t'` is `t` with spaces put between parts that are
apart. -/
inductive Spaced : Text → Text → Text → Prop
  | nil (before : Text) : Spaced before [] []
  | keep {before t t' : Text} (c : Char) (h : Spaced (before ++ [c]) t t') : Spaced before (c :: t) (c :: t')
  | space {before t t' : Text} (hapart : Apart before t) (h : Spaced before t t') :
      Spaced before t (' ' :: t')

namespace Spaced

variable {before t t' : Text}

theorem refl (before t : Text) : Spaced before t t := by
  induction t generalizing before with
  | nil => exact .nil before
  | cons c t ih => exact .keep c (ih _)

/-- Spaces may stand there as well if less is seen of what is in front. -/
theorem of_suffix {before' : Text} (h : Spaced before' t t') (hsuffix : before <:+ before') :
    Spaced before t t' := by
  induction h generalizing before with
  | nil before' => exact .nil before
  | keep c h ih =>
    apply Spaced.keep
    apply ih
    obtain ⟨front, rfl⟩ := hsuffix
    exact ⟨front, by simp⟩
  | space hapart h ih => exact .space (hapart.of_suffix hsuffix) (ih hsuffix)

theorem alone (h : Spaced before t t') : Spaced [] t t' := h.of_suffix (List.nil_suffix)

/-- Nothing but spaces is put into the text. -/
theorem mem (h : Spaced before t t') {c : Char} : (c ∈ t → c ∈ t') ∧ (c ∈ t' → c = ' ' ∨ c ∈ t) := by
  induction h with
  | nil before => simp
  | keep d h ih =>
    simp only [List.mem_cons]
    tauto
  | space hapart h ih =>
    simp only [List.mem_cons]
    tauto

theorem mem_iff (h : Spaced before t t') {c : Char} (hc : c ≠ ' ') : c ∈ t ↔ c ∈ t' :=
  ⟨h.mem.1, fun hmem => (h.mem.2 hmem).resolve_left hc⟩

theorem allBlank_iff (h : Spaced before t t') : Text.AllBlank t ↔ Text.AllBlank t' := by
  constructor
  · intro hblank c hc
    rcases h.mem.2 hc with rfl | hc
    · rfl
    · exact hblank c hc
  · exact fun hblank c hc => hblank c (h.mem.1 hc)

theorem eq_of_not_mem (h : Spaced before t t') (hspace : ' ' ∉ t') : t = t' := by
  induction h with
  | nil before => rfl
  | keep c h ih => rw [ih fun hmem => hspace (List.mem_cons_of_mem _ hmem)]
  | space hapart h ih => exact absurd List.mem_cons_self hspace

/-- A character in front of which no space stands is the first one of the text. -/
theorem of_cons {c : Char} {u : Text} (h : Spaced before t (c :: u)) (hc : c ≠ ' ') :
    ∃ v, t = c :: v ∧ Spaced (before ++ [c]) v u := by
  cases h with
  | keep c h => exact ⟨_, rfl, h⟩
  | space hapart h => exact absurd rfl hc

/-- What starts the spaced text and holds no space starts the text. -/
theorem of_append {w u : Text} (h : Spaced before t (w ++ u)) (hw : ' ' ∉ w) :
    ∃ v, t = w ++ v ∧ Spaced (before ++ w) v u := by
  induction w generalizing before t with
  | nil => exact ⟨t, rfl, by simpa using h⟩
  | cons c w ih =>
    rw [List.mem_cons, not_or] at hw
    obtain ⟨v, rfl, hrest⟩ := h.of_cons (Ne.symm hw.1)
    obtain ⟨v', rfl, hbehind⟩ := ih hrest hw.2
    exact ⟨v', rfl, by simpa using hbehind⟩

/-- A first character that a blank is not is the first one of both texts. -/
theorem cons_of_head {c : Char} {u : Text} (h : Spaced before (c :: u) t')
    (hhead : ∀ d ∈ t'.head?, isBlank d = false) : ∃ u', t' = c :: u' ∧ Spaced (before ++ [c]) u u' := by
  cases h with
  | keep c h => exact ⟨_, rfl, h⟩
  | space hapart h => cases hhead ' ' rfl

/-! ### Trimming -/

theorem dropWhile_isBlank (h : Spaced before t t') :
    Spaced [] (t.dropWhile isBlank) (t'.dropWhile isBlank) := by
  induction h with
  | nil before => exact .nil []
  | keep c h ih =>
    rw [List.dropWhile_cons, List.dropWhile_cons]
    split
    · exact ih
    · exact (Spaced.keep c h).alone
  | space hapart h ih => exact ih

theorem dropEndWhile_cons (c : Char) (t : Text) : Text.dropEndWhile isBlank (c :: t) =
    if (c :: t).all isBlank then [] else c :: Text.dropEndWhile isBlank t := by
  unfold Text.dropEndWhile
  rw [List.reverse_cons, List.dropWhile_append, List.all_cons]
  by_cases ht : t.all isBlank = true
  · have hnil : t.reverse.dropWhile isBlank = [] := by
      apply List.dropWhile_eq_nil_iff.2
      exact fun d hd => List.all_eq_true.1 ht d (List.mem_reverse.1 hd)
    cases hc : isBlank c <;> simp [hnil, hc, ht]
  · have hne : t.reverse.dropWhile isBlank ≠ [] := by
      intro hnil
      apply ht
      apply List.all_eq_true.2
      exact fun d hd => List.dropWhile_eq_nil_iff.1 hnil d (List.mem_reverse.2 hd)
    have hempty : (t.reverse.dropWhile isBlank).isEmpty = false := by simpa using hne
    simp [hempty, ht]

theorem dropEndWhile_isBlank (h : Spaced before t t') :
    Spaced before (Text.dropEndWhile isBlank t) (Text.dropEndWhile isBlank t') := by
  have hall : ∀ {before t t'}, Spaced before t t' → t.all isBlank = t'.all isBlank := by
    intro before t t' h
    rw [Bool.eq_iff_iff, List.all_eq_true, List.all_eq_true]
    exact h.allBlank_iff
  induction h with
  | nil before => exact .nil before
  | keep c h ih =>
    rw [dropEndWhile_cons, dropEndWhile_cons, hall (.keep c h)]
    split
    · exact .nil _
    · exact .keep c ih
  | @space before t t' hapart h ih =>
    rw [dropEndWhile_cons]
    split
    · -- Behind the space there are only blanks, so the text is blank as well.
      rename_i hblank
      have ht : t.all isBlank = true := by rw [hall (.space hapart h), hblank]
      cases t with
      | nil => exact .nil _
      | cons c t =>
        rw [dropEndWhile_cons, if_pos ht]
        exact .nil _
    · refine .space (hapart.of_start ?_) ih
      unfold Text.dropEndWhile
      rw [← List.reverse_suffix, List.reverse_reverse]
      exact List.dropWhile_suffix _

/-- Trimming takes the spaces at both ends away. -/
theorem strip (h : Spaced before t t') : Spaced [] t.strip t'.strip :=
  h.dropWhile_isBlank.dropEndWhile_isBlank

theorem eq_nil_iff (h : Spaced before t t') (ht' : ∀ d ∈ t'.head?, isBlank d = false) :
    t = [] ↔ t' = [] := by
  constructor
  · rintro rfl
    have hblank : Text.AllBlank t' := h.allBlank_iff.1 Text.allBlank_nil
    cases t' with
    | nil => rfl
    | cons c t' =>
      have hc := ht' c rfl
      rw [hblank c List.mem_cons_self] at hc
      cases hc
  · rintro rfl
    cases h
    rfl

theorem head?_eq (h : Spaced before t t') (ht' : ∀ d ∈ t'.head?, isBlank d = false) :
    t.head? = t'.head? := by
  cases t with
  | nil =>
    rw [(h.eq_nil_iff ht').1 rfl]
  | cons c u =>
    obtain ⟨u', rfl, -⟩ := h.cons_of_head ht'
    rfl

/-! ### Cutting -/

theorem takeWhile_ne (h : Spaced before t t') {c : Char} (hc : c ≠ ' ') :
    Spaced before (t.takeWhile (· != c)) (t'.takeWhile (· != c)) := by
  -- A space that was added is not what is looked for, so it is passed over.
  induction h with
  | nil before => exact .nil before
  | keep d h ih =>
    rw [List.takeWhile_cons, List.takeWhile_cons]
    split
    · exact .keep d ih
    · exact .nil _
  | space hapart h ih =>
    rw [List.takeWhile_cons_of_pos (by simpa using Ne.symm hc)]
    exact .space (hapart.of_start (List.takeWhile_prefix _)) ih

/-- The texts are cut into the same pieces. -/
theorem splitOn (h : Spaced before t t') {c : Char} (hc : c ≠ ' ') :
    ∃ piece pieces piece' pieces', Text.splitOn c t = piece :: pieces ∧
      Text.splitOn c t' = piece' :: pieces' ∧ piece <+: t ∧ Spaced before piece piece' ∧
      List.Forall₂ (Spaced []) pieces pieces' := by
  unfold Text.splitOn
  -- A character is kept and may be where both are cut, or a space is added, at which nothing is cut.
  induction h with
  | nil before => exact ⟨[], [], [], [], rfl, rfl, List.prefix_rfl, .nil before, .nil⟩
  | keep d h ih =>
    obtain ⟨piece, pieces, piece', pieces', hcut, hcut', hstart, hpiece, hpieces⟩ := ih
    rw [Text.splitWhere, Text.splitWhere, hcut, hcut']
    split
    · exact ⟨[], _, [], _, rfl, rfl, List.nil_prefix, .nil _, .cons hpiece.alone hpieces⟩
    · exact ⟨_, _, _, _, rfl, rfl, List.cons_prefix_cons.2 ⟨rfl, hstart⟩, .keep d hpiece, hpieces⟩
  | space hapart h ih =>
    obtain ⟨piece, pieces, piece', pieces', hcut, hcut', hstart, hpiece, hpieces⟩ := ih
    have hspace : (' ' == c) = false := beq_eq_false_iff_ne.2 (Ne.symm hc)
    rw [Text.splitWhere, hspace, hcut, hcut']
    exact ⟨_, _, _, _, rfl, rfl, hstart, .space (hapart.of_start hstart) hpiece, hpieces⟩

/-! ### Words and brackets -/

/-- A word goes on as far in both texts. -/
theorem word (h : Spaced before t t') {x : Char} (hx : before.getLast? = some x)
    (hword : isWordPart x = true) :
    t.takeWhile isNamePart = t'.takeWhile isNamePart ∧
      Spaced [] (t.dropWhile isNamePart) (t'.dropWhile isNamePart) := by
  induction h generalizing x with
  | nil before => exact ⟨rfl, .nil []⟩
  | keep c h ih =>
    rw [List.takeWhile_cons, List.takeWhile_cons, List.dropWhile_cons, List.dropWhile_cons]
    split
    · rename_i hc
      obtain ⟨htake, hdrop⟩ := ih (List.getLast?_concat) (isWordPart_of_isNamePart hc)
      exact ⟨congrArg (c :: ·) htake, hdrop⟩
    · exact ⟨rfl, (Spaced.keep c h).alone⟩
  | @space before t t' hapart h ih =>
    -- Where a space stands no word goes on.
    have hend : ∀ c ∈ t.head?, isNamePart c = false := by
      intro c hc
      rw [Bool.eq_false_iff]
      intro hpart
      exact not_apart_of_fuses hx hc (fuses_of_isWordPart hword (isWordPart_of_isNamePart hpart)) hapart
    have hspace : isNamePart ' ' = false := by decide
    cases t with
    | nil => exact ⟨rfl, (Spaced.space hapart h).alone⟩
    | cons c t =>
      have hc := hend c rfl
      simp only [List.takeWhile_cons, List.dropWhile_cons, hc, hspace, Bool.false_eq_true, if_false]
      exact ⟨trivial, (Spaced.space hapart h).alone⟩

/-- No space stands in a long bracket: if one opens or closes in front of the two texts, it goes on in both or
in none. -/
theorem bracket_iff (h : Spaced before t t') {d : Char} (hd : d = '[' ∨ d = ']')
    (hbefore : (before.reverse.dropWhile (· == '=')).head? = some d) (n : Nat) :
    List.replicate n '=' ++ [d] <+: t ↔ List.replicate n '=' ++ [d] <+: t' := by
  have hspace : ' ' ∉ List.replicate n '=' ++ [d] := by
    rcases hd with rfl | rfl <;> simp [List.mem_replicate]
  constructor
  · rintro ⟨u, rfl⟩
    clear hspace
    -- Inside the bracket no space can be added, for what is around it would not be apart.
    induction n generalizing before t' with
    | zero =>
      cases h with
      | keep d h => exact List.cons_prefix_cons.2 ⟨rfl, List.nil_prefix⟩
      | space hapart h =>
        have hjoins : joinsBracket d before (d :: u) = true := by
          rcases hd with rfl | rfl <;> simp [joinsBracket, hbefore]
        rcases hd with rfl | rfl
        · exact absurd (hapart.opener.symm.trans hjoins) (by simp)
        · exact absurd (hapart.closer.symm.trans hjoins) (by simp)
    | succ n ih =>
      rw [List.replicate_succ, List.cons_append] at h ⊢
      cases h with
      | keep _ h =>
        refine List.cons_prefix_cons.2 ⟨rfl, ih ?_ h⟩
        rw [List.reverse_append]
        exact hbefore
      | space hapart h =>
        have hjoins : joinsBracket d before ('=' :: (List.replicate n '=' ++ [d] ++ u)) = true := by
          rcases hd with rfl | rfl <;> simp [joinsBracket, hbefore]
        rcases hd with rfl | rfl
        · exact absurd (hapart.opener.symm.trans hjoins) (by simp)
        · exact absurd (hapart.closer.symm.trans hjoins) (by simp)
  · rintro ⟨u, rfl⟩
    -- The other way round the word has no space, so it has not been changed.
    obtain ⟨v, rfl, -⟩ := h.of_append hspace
    exact ⟨v, rfl⟩

theorem bracketOpener_iff {c : Char} (h : Spaced (before ++ [c]) t t') (level : Nat) :
    bracketOpener level <+: c :: t ↔ bracketOpener level <+: c :: t' := by
  rw [bracketOpener, List.cons_append, List.cons_prefix_cons, List.cons_prefix_cons]
  apply and_congr_right
  rintro rfl
  exact h.bracket_iff (.inl rfl) (by simp) level

theorem bracketCloser_iff {c : Char} (h : Spaced (before ++ [c]) t t') (level : Nat) :
    bracketCloser level <+: c :: t ↔ bracketCloser level <+: c :: t' := by
  rw [bracketCloser, List.cons_append, List.cons_prefix_cons, List.cons_prefix_cons]
  apply and_congr_right
  rintro rfl
  exact h.bracket_iff (.inr rfl) (by simp) level

theorem bracketLevel_eq {c : Char} (h : Spaced (before ++ [c]) t t') :
    bracketLevel (c :: t) = bracketLevel (c :: t') := by
  apply Option.ext
  intro level
  rw [bracketLevel_eq_some_iff, bracketLevel_eq_some_iff]
  exact h.bracketOpener_iff level

/-! ### Keywords -/

theorem append_of_word {w u : Text} (h : Spaced before (w ++ u) t') {x : Char}
    (hx : before.getLast? = some x) (hword : isWordPart x = true) (hw : ∀ c ∈ w, isNamePart c = true) :
    ∃ u', t' = w ++ u' ∧ Spaced (before ++ w) u u' := by
  induction w generalizing before t' x with
  | nil => exact ⟨t', rfl, by simpa using h⟩
  | cons c w ih =>
    have hc := isWordPart_of_isNamePart (hw c List.mem_cons_self)
    cases h with
    | keep _ h =>
      obtain ⟨u', rfl, hbehind⟩ := ih h List.getLast?_concat hc fun d hd =>
        hw d (List.mem_cons_of_mem _ hd)
      exact ⟨u', rfl, by simpa using hbehind⟩
    -- Between two characters of a word no space is added.
    | space hapart h => exact absurd hapart (not_apart_of_fuses hx rfl (fuses_of_isWordPart hword hc))

/-- Both texts start with a keyword, or none does. -/
theorem keyword (h : Spaced before t t') (ht' : ∀ d ∈ t'.head?, isBlank d = false) {w : Text}
    (hw : w.all isNamePart = true) (hne : w ≠ []) :
    (w.isPrefixOf? t = none ∧ w.isPrefixOf? t' = none) ∨
      ∃ u u', w.isPrefixOf? t = some u ∧ w.isPrefixOf? t' = some u' ∧ Spaced w u u' := by
  rw [List.all_eq_true] at hw
  have hspace : ' ' ∉ w := fun hmem => absurd (hw _ hmem) (by decide)
  cases hstart : w.isPrefixOf? t with
  | some u =>
    right
    obtain rfl := List.append_eq_of_isPrefixOf?_eq_some hstart
    obtain ⟨c, w, rfl⟩ := List.exists_cons_of_ne_nil hne
    obtain ⟨v, rfl, hv⟩ := h.cons_of_head ht'
    -- Between letters of a word no space is added.
    obtain ⟨u', rfl, hbehind⟩ := hv.append_of_word List.getLast?_concat
      (isWordPart_of_isNamePart (hw c List.mem_cons_self)) fun d hd => hw d (List.mem_cons_of_mem _ hd)
    refine ⟨u, u', rfl, List.isPrefixOf?_eq_some_iff_append_eq.2 rfl, hbehind.of_suffix ?_⟩
    exact ⟨before, by simp⟩
  | none =>
    left
    refine ⟨rfl, ?_⟩
    cases hstart' : w.isPrefixOf? t' with
    | none => rfl
    | some u' =>
      obtain rfl := List.append_eq_of_isPrefixOf?_eq_some hstart'
      obtain ⟨u, rfl, -⟩ := h.of_append hspace
      rw [List.isPrefixOf?_eq_some_iff_append_eq.2 rfl] at hstart
      cases hstart

theorem isWordPart_getLast? {w : Text} (hw : w.all isNamePart = true) (hne : w ≠ []) :
    ∃ x, w.getLast? = some x ∧ isWordPart x = true := by
  refine ⟨w.getLast hne, List.getLast?_eq_some_getLast hne, ?_⟩
  exact isWordPart_of_isNamePart (List.all_eq_true.1 hw _ (List.getLast_mem hne))

theorem startsWithKeyword_eq (h : Spaced before t t') (ht' : ∀ d ∈ t'.head?, isBlank d = false)
    {w : Text} (hw : w.all isNamePart = true) (hne : w ≠ []) :
    startsWithKeyword w t = startsWithKeyword w t' := by
  unfold startsWithKeyword
  rcases h.keyword ht' hw hne with ⟨hnone, hnone'⟩ | ⟨u, u', hsome, hsome', hbehind⟩
  · rw [hnone, hnone']
  · rw [hsome, hsome']
    have hspace : (!(isAlphanumeric ' ' || ' ' == '_')) = true := by decide
    cases hbehind with
    | nil => rfl
    | keep c h => rfl
    | @space _ u u'' hapart h =>
      -- What a space separates from the keyword does not continue it.
      cases u with
      | nil => exact hspace.symm
      | cons c u =>
        obtain ⟨x, hx, hword⟩ := isWordPart_getLast? hw hne
        have hc : isWordPart c = false := by
          rw [Bool.eq_false_iff]
          exact fun hc => not_apart_of_fuses hx rfl (fuses_of_isWordPart hword hc) hapart
        have hcontinues : (!(isAlphanumeric c || c == '_')) = true := by
          simp only [isWordPart, isNamePart, Bool.or_eq_false_iff] at hc
          simp [hc.1.1.2, hc.1.2]
        exact hcontinues.trans hspace.symm

/-! ### Whole words and numbers -/

/-- Into a text in which every character fuses with the next one no space is put. -/
theorem eq_of_isChain (h : Spaced before t t') {x : Char} (hx : before.getLast? = some x)
    (hchain : (x :: t).IsChain (fuses · · = true)) (hlast : ∀ c ∈ t'.getLast?, isBlank c = false) :
    t = t' := by
  induction h generalizing x with
  | nil before => rfl
  | keep c h ih =>
    obtain ⟨-, hrest⟩ := List.isChain_cons_cons.1 hchain
    rw [ih List.getLast?_concat hrest]
    intro d hd
    apply hlast d
    rw [List.getLast?_cons, Option.mem_def.1 hd]
    rfl
  | @space before t t' hapart h ih =>
    cases t with
    -- A space would stand between two characters that fuse.
    | cons c t =>
      exact absurd hapart (not_apart_of_fuses hx rfl (List.isChain_cons_cons.1 hchain).1)
    -- At the end nothing but blanks could have been added.
    | nil =>
      have hblank : Text.AllBlank (' ' :: t') := (Spaced.space hapart h).allBlank_iff.1 Text.allBlank_nil
      have hmem := List.getLast_mem (List.cons_ne_nil ' ' t')
      have hend := hlast _ (List.getLast?_eq_some_getLast (List.cons_ne_nil ' ' t'))
      rw [hblank _ hmem] at hend
      cases hend

theorem eq_of_isChain_of_trimmed (h : Spaced before t t') (ht' : Text.Trimmed t')
    (hchain : t.IsChain (fuses · · = true)) : t = t' := by
  cases t with
  | nil => exact ((h.eq_nil_iff ht'.head).1 rfl).symm
  | cons c u =>
    obtain ⟨u', rfl, hrest⟩ := h.cons_of_head ht'.head
    rw [hrest.eq_of_isChain List.getLast?_concat hchain]
    intro d hd
    apply ht'.last d
    rw [List.getLast?_cons, Option.mem_def.1 hd]
    rfl

theorem eq_word_iff (h : Spaced before t t') (ht' : Text.Trimmed t') {w : Text}
    (hw : w.IsChain (fuses · · = true)) (hspace : ' ' ∉ w) : t = w ↔ t' = w := by
  constructor
  · rintro rfl
    exact (h.eq_of_isChain_of_trimmed ht' hw).symm
  · rintro rfl
    exact h.eq_of_not_mem hspace

theorem fuses_digit {x d : Char} (hx : isDecimalDigit x = true ∨ x = '-' ∨ x = '.')
    (hd : isDecimalDigit d = true) : fuses x d = true := by
  rcases hx with hx | rfl | rfl <;> simp [fuses, isWordPart, *]

theorem isChain_digits {x : Char} (hx : isDecimalDigit x = true ∨ x = '-' ∨ x = '.') {ds : Text}
    (hds : ∀ d ∈ ds, isDecimalDigit d = true) : (x :: ds).IsChain (fuses · · = true) := by
  induction ds generalizing x with
  | nil => exact List.isChain_singleton x
  | cons d ds ih =>
    have hd := hds d List.mem_cons_self
    refine List.isChain_cons_cons.2 ⟨fuses_digit hx hd, ih (.inl hd) fun e he => ?_⟩
    exact hds e (List.mem_cons_of_mem _ he)

/-- What a number consists of. -/
theorem exists_of_isNumberLiteral {t : Text} (h : isNumberLiteral t = true) :
    ∃ sign digits fraction, t = sign ++ (digits ++ fraction) ∧ (sign = [] ∨ sign = ['-']) ∧
      digits ≠ [] ∧ (∀ d ∈ digits, isDecimalDigit d = true) ∧
      (fraction = [] ∨ ∃ ds, fraction = '.' :: ds ∧ ∀ d ∈ ds, isDecimalDigit d = true) := by
  -- First the sign, then digits as far as they go, and then a point with digits if anything is left.
  obtain ⟨sign, unsigned, rfl, hsign, hunsigned⟩ : ∃ sign unsigned, t = sign ++ unsigned ∧
      (sign = [] ∨ sign = ['-']) ∧ unsigned = if t.head? = some '-' then t.tail else t := by
    by_cases hminus : t.head? = some '-'
    · obtain ⟨u, rfl⟩ := List.head?_eq_some_iff.1 hminus
      exact ⟨['-'], u, rfl, .inr rfl, rfl⟩
    · exact ⟨[], t, rfl, .inl rfl, (if_neg hminus).symm⟩
  unfold isNumberLiteral at h
  rw [← hunsigned] at h
  clear hunsigned
  cases unsigned with
  | nil => cases h
  | cons c rest =>
    obtain ⟨hc, hrest⟩ := Bool.and_eq_true_iff.1 h
    refine ⟨sign, c :: rest.takeWhile isDecimalDigit, rest.dropWhile isDecimalDigit, ?_, hsign,
      List.cons_ne_nil _ _, ?_, ?_⟩
    · rw [List.cons_append, List.takeWhile_append_dropWhile]
    · intro d hd
      rcases List.mem_cons.1 hd with rfl | hd
      · exact hc
      · exact List.mem_takeWhile_imp hd
    · split at hrest
      · rename_i ds hdrop
        exact .inr ⟨ds, hdrop, List.all_eq_true.1 hrest⟩
      · exact .inl (List.isEmpty_iff.1 hrest)

/-- The characters of a number fuse. -/
theorem isChain_of_isNumberLiteral {t : Text} (h : isNumberLiteral t = true) :
    t.IsChain (fuses · · = true) ∧ ' ' ∉ t := by
  have hspace : ∀ ds : Text, (∀ d ∈ ds, isDecimalDigit d = true) → ' ' ∉ ds :=
    fun ds hds hmem => absurd (hds _ hmem) (by decide)
  obtain ⟨sign, digits, fraction, rfl, hsign, hne, hdigits, hfraction⟩ := exists_of_isNumberLiteral h
  obtain ⟨c, ds, rfl⟩ := List.exists_cons_of_ne_nil hne
  have hwhole : (c :: ds).IsChain (fuses · · = true) :=
    isChain_digits (.inl (hdigits c List.mem_cons_self)) fun d hd => hdigits d (List.mem_cons_of_mem _ hd)
  -- Digits fuse with each other and with the point.
  have hunsigned : (c :: ds ++ fraction).IsChain (fuses · · = true) ∧ ' ' ∉ c :: ds ++ fraction := by
    rcases hfraction with rfl | ⟨fs, rfl, hfs⟩
    · rw [List.append_nil]
      exact ⟨hwhole, hspace _ hdigits⟩
    · constructor
      · refine List.isChain_append.2 ⟨hwhole, isChain_digits (.inr (.inr rfl)) hfs, ?_⟩
        intro x hx y hy
        obtain rfl : '.' = y := by simpa using hy
        have hx := hdigits x (List.mem_of_getLast? hx)
        simp [fuses, hx]
      · rw [List.mem_append, List.mem_cons (a := ' ') (b := '.'), not_or, not_or]
        exact ⟨hspace _ hdigits, by decide, hspace _ hfs⟩
  rcases hsign with rfl | rfl
  · exact hunsigned
  · refine ⟨List.isChain_cons_cons.2 ⟨?_, hunsigned.1⟩, ?_⟩
    · exact fuses_digit (.inr (.inl rfl)) (hdigits c List.mem_cons_self)
    · rw [List.singleton_append, List.mem_cons, not_or]
      exact ⟨by decide, hunsigned.2⟩

theorem isNumberLiteral_eq (h : Spaced before t t') (ht' : Text.Trimmed t') :
    isNumberLiteral t = isNumberLiteral t' := by
  rw [Bool.eq_iff_iff]
  constructor
  · intro hnumber
    rw [← h.eq_of_isChain_of_trimmed ht' (isChain_of_isNumberLiteral hnumber).1]
    exact hnumber
  · intro hnumber
    rw [h.eq_of_not_mem (isChain_of_isNumberLiteral hnumber).2]
    exact hnumber

/-- **As a value** the spaced text is of the kind of the text. -/
theorem inferValueType_eq (h : Spaced before t t') : inferValueType t = inferValueType t' := by
  have htrimmed := Text.trimmed_strip t'
  have hvalue := h.strip
  have hhead := hvalue.head?_eq htrimmed.head
  -- Each test of the value gives the same for both texts: the character it starts with, a long bracket, a number,
  -- a keyword or one of three words.
  have hlevel : bracketLevel t.strip = bracketLevel t'.strip := by
    generalize t.strip = v at hvalue hhead
    cases v with
    | nil => rw [(hvalue.eq_nil_iff htrimmed.head).1 rfl]
    | cons c v =>
      obtain ⟨v', hv', hrest⟩ := hvalue.cons_of_head htrimmed.head
      rw [hv']
      exact hrest.bracketLevel_eq
  have hword : ∀ w : Text, w.IsChain (fuses · · = true) → ' ' ∉ w → (t.strip = w ↔ t'.strip = w) :=
    fun w => hvalue.eq_word_iff htrimmed
  have hkeyword := hvalue.startsWithKeyword_eq htrimmed.head
    (w := functionKeyword) (by decide) (by decide)
  unfold inferValueType
  simp only [hhead, hlevel, hvalue.isNumberLiteral_eq htrimmed, hkeyword,
    hword "true".toList (by decide) (by decide), hword "false".toList (by decide) (by decide),
    hword "nil".toList (by decide) (by decide)]

theorem resolveValueType_eq (h : Spaced before t t') (explicitType : Option Text) :
    resolveValueType t explicitType = resolveValueType t' explicitType := by
  unfold resolveValueType
  simp only [h.inferValueType_eq]

end Spaced

/-! ## §3 Texts over several lines -/

/-- In a text that goes on below the line no two brackets come together. -/
theorem head?_dropWhile_feed {d : Char} (hd : d ≠ '\n') (t u : Text) :
    ((t ++ '\n' :: u).dropWhile (· == '=')).head? = some d ↔ (t.dropWhile (· == '=')).head? = some d := by
  rw [List.dropWhile_append]
  split
  · rename_i hnil
    rw [List.isEmpty_iff.1 hnil]
    simp [Ne.symm hd]
  · rename_i hne
    obtain ⟨c, v, hv⟩ := List.exists_cons_of_ne_nil (mt List.isEmpty_iff.2 hne)
    rw [hv]
    rfl

theorem Apart.append_feed {before behind : Text} (h : Apart before behind) (u : Text) :
    Apart before (behind ++ '\n' :: u) := by
  have hjoins : ∀ d, d ≠ '\n' → joinsBracket d before (behind ++ '\n' :: u) = joinsBracket d before behind := by
    intro d hd
    rw [Bool.eq_iff_iff]
    simp only [joinsBracket, Bool.and_eq_true, beq_iff_eq, head?_dropWhile_feed hd]
  refine ⟨h.backslash, fun x hx y hy => ?_, (hjoins '[' (by decide)).trans h.opener,
    (hjoins ']' (by decide)).trans h.closer⟩
  cases behind with
  | nil =>
    obtain rfl : '\n' = y := by simpa using hy
    exact (fuses_eq_false (.inr rfl) x).1
  | cons c behind => exact h.fuses_eq x hx y hy

theorem Apart.feed_append {before behind : Text} (h : Apart before behind) (t : Text) :
    Apart (t ++ '\n' :: before) behind := by
  -- A line feed is part of no bracket, so nothing in front of it is seen.
  have hjoins : ∀ d, d ≠ '\n' → joinsBracket d (t ++ '\n' :: before) behind = joinsBracket d before behind := by
    intro d hd
    have hreverse : (t ++ '\n' :: before).reverse = before.reverse ++ '\n' :: t.reverse := by simp
    rw [Bool.eq_iff_iff]
    simp only [joinsBracket, hreverse, Bool.and_eq_true, beq_iff_eq, head?_dropWhile_feed hd]
  have hlast : ∀ x, (t ++ '\n' :: before).getLast? = some x → x = '\n' ∨ before.getLast? = some x := by
    intro x hx
    rw [List.getLast?_append, List.getLast?_cons] at hx
    cases hbefore : before.getLast? with
    | none =>
      rw [hbefore] at hx
      exact .inl (Option.some.inj hx).symm
    | some y =>
      rw [hbefore] at hx
      exact .inr hx
  refine ⟨fun hx => ?_, fun x hx y hy => ?_, (hjoins '[' (by decide)).trans h.opener,
    (hjoins ']' (by decide)).trans h.closer⟩
  · rcases hlast _ hx with hx | hx
    · exact absurd hx (by decide)
    · exact h.backslash hx
  · rcases hlast _ hx with rfl | hx
    · exact (fuses_eq_false (.inr rfl) y).2
    · exact h.fuses_eq x hx y hy

/-- A line end keeps apart what stands on its two sides. -/
theorem Spaced.feed_append {before t t' : Text} (h : Spaced before t t') (u : Text) :
    Spaced (u ++ '\n' :: before) t t' := by
  induction h with
  | nil before => exact .nil _
  | keep c h ih =>
    refine .keep c ?_
    rw [List.append_assoc, List.cons_append]
    exact ih
  | space hapart h ih => exact .space (hapart.feed_append u) ih

theorem Spaced.append_feed {before t t' u u' : Text} (h : Spaced before t t') (hu : Spaced [] u u') :
    Spaced before (t ++ '\n' :: u) (t' ++ '\n' :: u') := by
  induction h with
  | nil before => exact .keep '\n' (hu.feed_append before)
  | keep c h ih => exact .keep c ih
  | space hapart h ih => exact .space (hapart.append_feed u) ih

/-- Lines with spaces in them make up a text with spaces in it. -/
theorem Spaced.join {lines lines' : List Text} (h : List.Forall₂ (Spaced []) lines lines') :
    Spaced [] (Text.join ['\n'] lines) (Text.join ['\n'] lines') := by
  induction h with
  | nil => exact .nil []
  | cons hline h ih =>
    cases h with
    | nil => exact hline
    | cons hnext h =>
      simp only [Text.join, List.append_assoc, List.singleton_append]
      exact hline.append_feed ih

end LuaAccessors.Lexis
