import LuaAccessors.Proofs.Lexis.Agreement
import LuaAccessors.Proofs.Lexis.Spaced

/-!
# Spaces for block comments

A block comment that opens and closes on one line may be replaced by a space. The lexer reads the new source as
it has read the old one, with a space in place of each such comment: what it looks at in front of itself holds
no space, so it sees it in the new source if and only if it has seen it in the old one.

- `Piece`, `pieces`: lexemes with a space for every such comment;
- `spacedSource`, `LexedLine.spaced`: the new source and its lines;
- `lex_pieces`: the lexemes of the new source;
- `lexedLines_spacedSource`: its lines;
- `LexedLine.seams`, `LexedLine.spaced_code`: the code of a line with the spaces in it.
-/

namespace LuaAccessors.Lexis

/-! ## §1 Comments on one line -/

/-- The region of a block comment. -/
def Region.isBlockComment : Region → Bool
  | .blockComment _ => true
  | _ => false

/-- In `region` the lexeme opens a block comment. -/
def Lexeme.opensComment (region : Region) (w : Lexeme) : Bool :=
  region == .code && w.kind == .comment && w.after.region.isBlockComment

theorem Lexeme.opensComment_iff {region : Region} {w : Lexeme} : w.opensComment region = true ↔
    region = .code ∧ w.kind = .comment ∧ w.after.region.isBlockComment = true := by
  simp [Lexeme.opensComment, and_assoc]

/-- The block comment that the lexemes start inside of ends on its line. -/
def closesOnLine : List Lexeme → Bool
  | [] => false
  | w :: ws => w.kind == .comment && (w.after.region == .code || closesOnLine ws)

/-- What becomes of the lexemes of a source. -/
inductive Piece where
  /-- A lexeme that stays. -/
  | kept (w : Lexeme)
  /-- A space for a block comment, and the position behind it. -/
  | space (after : Position)
  deriving DecidableEq

/-- The pieces of lexemes of which the first one is in `region`, or inside of a comment that is replaced. -/
def pieces (inside : Bool) (region : Region) : List Lexeme → List Piece
  | [] => []
  | w :: ws =>
    if inside then
      if w.after.region = .code then .space w.after :: pieces false .code ws
      else pieces true w.after.region ws
    else if w.opensComment region && closesOnLine ws then pieces true w.after.region ws
    else .kept w :: pieces false w.after.region ws

/-- A piece as the lexer reads it. -/
def Piece.lexeme : Piece → Lexeme
  | .kept w => w
  | .space after => ⟨[' '], .code, after⟩

/-- The text of some pieces. -/
def textOf (xs : List Piece) : Text := xs.flatMap fun x => x.lexeme.text

/-- The source with one space for every block comment that opens and closes on one line. -/
def spacedSource (source : Text) : Text := textOf (pieces false .code (lex {} source))

namespace LexedLine

/-- The pieces of a line. -/
def pieces (l : LexedLine) : List Piece := Lexis.pieces false l.start.region l.lexemes

/-- The line with one space for every block comment on it. -/
def spaced (l : LexedLine) : LexedLine := { l with lexemes := l.pieces.map Piece.lexeme }

end LexedLine

section

variable {region : Region} {w : Lexeme} {ws : List Lexeme}

theorem pieces_of_opens (hopens : w.opensComment region = true) (hcloses : closesOnLine ws = true) :
    pieces false region (w :: ws) = pieces true w.after.region ws := by
  rw [pieces, if_neg (by simp), if_pos (by simp [hopens, hcloses])]

theorem pieces_of_keeps (h : w.opensComment region = true → closesOnLine ws = false) :
    pieces false region (w :: ws) = .kept w :: pieces false w.after.region ws := by
  rw [pieces, if_neg (by simp), if_neg]
  rw [Bool.and_eq_true]
  rintro ⟨hopens, hcloses⟩
  rw [h hopens] at hcloses
  cases hcloses

theorem pieces_of_closes (h : w.after.region = .code) :
    pieces true region (w :: ws) = .space w.after :: pieces false .code ws := by
  rw [pieces, if_pos rfl, if_pos h]

theorem pieces_of_inside (h : w.after.region ≠ .code) :
    pieces true region (w :: ws) = pieces true w.after.region ws := by
  rw [pieces, if_pos rfl, if_neg h]

/-- A comment that closes on its line becomes a space. -/
theorem exists_space (h : closesOnLine ws = true) :
    ∃ after xs, pieces true region ws = .space after :: xs := by
  induction ws generalizing region with
  | nil => cases h
  | cons w ws ih =>
    by_cases hcode : w.after.region = .code
    · exact ⟨w.after, _, pieces_of_closes hcode⟩
    · rw [pieces_of_inside hcode]
      apply ih
      simpa [closesOnLine, hcode] using (Bool.and_eq_true_iff.1 h).2

end

/-! ## §2 What the lexer looks at

To read one lexeme the lexer looks at some more characters. A text that is changed behind these is read in the
same way, and a comment that becomes a space is such a change for the lexeme in front of it.
-/

theorem textOf_cons (x : Piece) (xs : List Piece) : textOf (x :: xs) = x.lexeme.text ++ textOf xs := rfl

/-- A text without spaces stands at the start of the pieces only if it stands at the start of the lexemes. -/
theorem start_of_pieces {ws : List Lexeme} {region : Region} {v : Text} (hv : ' ' ∉ v)
    (h : v <+: textOf (pieces false region ws)) : v <+: ws.flatMap Lexeme.text := by
  induction ws generalizing region v with
  | nil => exact h
  | cons w ws ih =>
    by_cases hopens : w.opensComment region = true ∧ closesOnLine ws = true
    · -- Here the new text starts with a space.
      obtain ⟨after, xs, hspace⟩ := @exists_space w.after.region _ hopens.2
      rw [pieces_of_opens hopens.1 hopens.2, hspace, textOf_cons] at h
      cases v with
      | nil => exact List.nil_prefix
      | cons c v =>
        obtain ⟨rfl, -⟩ := List.cons_prefix_cons.1 h
        exact absurd List.mem_cons_self hv
    · rw [pieces_of_keeps (by simpa using hopens), textOf_cons] at h
      rw [List.flatMap_cons]
      -- The text ends inside the lexeme, or it goes on behind the lexeme.
      rcases List.prefix_or_prefix_of_prefix h (List.prefix_append w.text _) with hw | ⟨u, rfl⟩
      · exact hw.trans (List.prefix_append _ _)
      · rw [List.mem_append, not_or] at hv
        exact (List.prefix_append_right_inj _).2 (ih hv.2 ((List.prefix_append_right_inj _).1 h))

/-- Behind a lexeme the lexer stands in front of `more`, and might as well stand in front of `more'`. -/
structure LooksLike (region : Region) (more more' : Text) : Prop where
  start : ∀ v, ' ' ∉ v → v <+: more' → v <+: more
  head?_eq : region ≠ .code → more'.head? = more.head?

/-- Behind `c` and in front of `rest` the lexer reads `w`: of `rest` it takes `n` characters, and it looks at
nothing but what `LooksLike` keeps. -/
structure LooksAhead (read : Text → Lexeme) (c : Char) (rest : Text) (w : Lexeme) (n : Nat) : Prop where
  read_eq : read rest = w
  le_length : n ≤ rest.length
  text_eq : w.text = c :: rest.take n
  look : ∀ more', LooksLike w.after.region (rest.drop n) more' → read (rest.take n ++ more') = w

theorem not_mem_opener (level : Nat) : ' ' ∉ bracketOpener level := by
  simp [bracketOpener, List.mem_replicate]

theorem not_mem_closer (level : Nat) : ' ' ∉ List.replicate level '=' ++ [']'] := by
  simp [List.mem_replicate]

section

variable (p : Position) (c : Char) (rest : Text)

/-- The lexeme of the first `n + 1` characters is the same in front of any other text. -/
theorem lexeme_take {n : Nat} (hn : n ≤ rest.length) (more' : Text) (kind : Kind) (region : Region) :
    p.lexeme (c :: (rest.take n ++ more')) (n + 1) kind region = p.lexeme (c :: rest) (n + 1) kind region := by
  have htake : (rest.take n ++ more').take n = rest.take n := by
    rw [List.take_append_of_le_length (by simp [hn]), List.take_take, Nat.min_self]
  simp only [Position.lexeme, List.take_succ_cons, htake]

theorem nextInBrackets_looksAhead (level : Nat) (kind : Kind) (region : Region) :
    ∃ w n, LooksAhead (p.nextInBrackets level kind region c) c rest w n := by
  -- If the bracket closes here, the lexeme is all that has been looked at.
  by_cases hcloser : bracketCloser level <+: c :: rest
  · have hlength : level + 1 ≤ rest.length := by simpa using hcloser.length_le
    have htake : bracketCloser level = c :: rest.take (level + 1) := by
      simpa using List.prefix_iff_eq_take.1 hcloser
    refine ⟨_, level + 1, if_pos hcloser, hlength, rfl, fun more' hlook => ?_⟩
    have hcloser' : bracketCloser level <+: c :: (rest.take (level + 1) ++ more') := by
      rw [htake, ← List.cons_append]
      exact List.prefix_append _ _
    rw [Position.nextInBrackets, if_pos hcloser']
    exact lexeme_take p c rest hlength more' kind .code
  · refine ⟨_, 0, if_neg hcloser, Nat.zero_le _, rfl, fun more' hlook => ?_⟩
    -- Else what has been looked at is not part of the lexeme, and another text that starts in the same way will
    -- not close it either.
    have hcloser' : ¬bracketCloser level <+: c :: more' := by
      intro h
      obtain ⟨hc, hrest⟩ := List.cons_prefix_cons.1 h
      exact hcloser (List.cons_prefix_cons.2 ⟨hc, hlook.start _ (not_mem_closer level) hrest⟩)
    exact if_neg hcloser'

theorem nextInQuoted_looksAhead (quote : Char) :
    ∃ w n, LooksAhead (p.nextInQuoted quote c) c rest w n := by
  by_cases hc : c = '\\'
  · subst hc
    -- Whether the escape takes a character with it depends on that character.
    cases rest with
    | nil =>
      refine ⟨_, 0, if_pos rfl, Nat.le_refl _, rfl, fun more' hlook => ?_⟩
      have hhead := hlook.head?_eq (by simp [Position.lexeme])
      rw [List.head?_eq_none_iff.1 hhead]
      rfl
    | cons d rest =>
      cases hd : isLineBreak d with
      | true =>
        refine ⟨_, 0, if_pos rfl, Nat.zero_le _, by simp [Position.lexeme, hd], fun more' hlook => ?_⟩
        have hhead := hlook.head?_eq (by simp [Position.lexeme])
        rw [List.take_zero, List.nil_append, Position.nextInQuoted, if_pos rfl, hhead]
        simp [hd, Position.lexeme]
      | false =>
        refine ⟨_, 1, if_pos rfl, by simp, by simp [Position.lexeme, hd], fun more' hlook => ?_⟩
        simp [Position.nextInQuoted, hd, Position.lexeme]
  · exact ⟨_, 0, if_neg hc, Nat.zero_le _, rfl, fun more' hlook => if_neg hc⟩

theorem bracketLevel_eq_none_of_looksLike {more more' : Text} {region : Region}
    (h : LooksLike region more more') (hnone : bracketLevel more = none) : bracketLevel more' = none := by
  cases hlevel : bracketLevel more' with
  | none => rfl
  | some level =>
    have hopener := h.start _ (not_mem_opener level) (bracketLevel_eq_some_iff.1 hlevel)
    rw [bracketLevel_eq_some_iff.2 hopener] at hnone
    cases hnone

/-- Two dashes start a comment, which is a block comment if a long bracket follows. -/
theorem comment_looksAhead (more : Text) :
    ∃ w n, LooksAhead (p.nextInCode '-') '-' ('-' :: more) w n := by
  -- A line comment is two dashes and looks further, for a long bracket. A block comment has the bracket in its
  -- lexeme.
  cases hlevel : bracketLevel more with
  | none =>
    refine ⟨p.lexeme ('-' :: '-' :: more) 2 .comment .lineComment, 1, ?_, by simp, rfl, fun more' hlook => ?_⟩
    · simp [Position.nextInCode, hlevel]
    · have hlevel' : bracketLevel more' = none := bracketLevel_eq_none_of_looksLike hlook hlevel
      simp [Position.nextInCode, hlevel', Position.lexeme]
  | some level =>
    have hlength : level + 3 ≤ ('-' :: more).length := by simpa using length_le_of_bracketLevel hlevel
    have hopener : bracketOpener level = more.take (level + 2) := by
      simpa using List.prefix_iff_eq_take.1 (bracketLevel_eq_some_iff.1 hlevel)
    refine ⟨p.lexeme ('-' :: '-' :: more) (level + 4) .comment (.blockComment level), level + 3, ?_, hlength, rfl,
      fun more' hlook => ?_⟩
    · simp [Position.nextInCode, hlevel]
    · have hlevel' : bracketLevel (more.take (level + 2) ++ more') = some level := by
        rw [← hopener]
        exact bracketLevel_opener level more'
      rw [← lexeme_take p '-' ('-' :: more) hlength more', List.take_succ_cons, List.cons_append]
      simp [Position.nextInCode, hlevel']

theorem nextInCode_looksAhead : ∃ w n, LooksAhead (p.nextInCode c) c rest w n := by
  by_cases hdash : c = '-' ∧ rest.head? = some '-'
  · obtain ⟨rfl, hhead⟩ := hdash
    obtain ⟨more, rfl⟩ := List.head?_eq_some_iff.1 hhead
    exact comment_looksAhead p more
  by_cases hquote : isQuote c = true
  · have hc : c ≠ '-' := by
      rintro rfl
      cases hquote
    refine ⟨p.lexeme (c :: rest) 1 .literal (.quoted c), 0, ?_, Nat.zero_le _, rfl, fun more' hlook => ?_⟩
    · simp [Position.nextInCode, hc, hquote]
    · simp [Position.nextInCode, hc, hquote, Position.lexeme]
  cases hlevel : bracketLevel (c :: rest) with
  | some level =>
    have hlength : level + 1 ≤ rest.length := by simpa using length_le_of_bracketLevel hlevel
    have hopener : bracketOpener level = c :: rest.take (level + 1) := by
      simpa using List.prefix_iff_eq_take.1 (bracketLevel_eq_some_iff.1 hlevel)
    have hc : c ≠ '-' := by
      rintro rfl
      cases (List.cons.inj hopener).1
    refine ⟨p.lexeme (c :: rest) (level + 2) .literal (.longString level), level + 1, ?_, hlength, rfl,
      fun more' hlook => ?_⟩
    · simp [Position.nextInCode, hc, hquote, hlevel]
    · have hlevel' : bracketLevel (c :: (rest.take (level + 1) ++ more')) = some level := by
        rw [← List.cons_append, ← hopener]
        exact bracketLevel_opener level more'
      rw [← lexeme_take p c rest hlength more']
      simp [Position.nextInCode, hc, hquote, hlevel']
  | none =>
    refine ⟨⟨[c], .code, ⟨.code, depthBehind p.depth c⟩⟩, 0, ?_, Nat.zero_le _, rfl, fun more' hlook => ?_⟩
    · simp [Position.nextInCode, hdash, hquote, hlevel]
    · have hdash' : ¬(c = '-' ∧ more'.head? = some '-') := by
        rintro ⟨hc, hhead⟩
        obtain ⟨u, rfl⟩ := List.head?_eq_some_iff.1 hhead
        obtain ⟨v, rfl⟩ := hlook.start ['-'] (by simp) (List.prefix_append ['-'] u)
        exact hdash ⟨hc, rfl⟩
      -- No bracket opens at `c` either, since its opener holds no space.
      have hcons : LooksLike .code (c :: rest) (c :: more') := by
        refine ⟨fun v hv h => ?_, fun h => absurd rfl h⟩
        cases v with
        | nil => exact List.nil_prefix
        | cons d v =>
          obtain ⟨hd, hrest⟩ := List.cons_prefix_cons.1 h
          rw [List.mem_cons, not_or] at hv
          exact List.cons_prefix_cons.2 ⟨hd, hlook.start v hv.2 hrest⟩
      simp [Position.nextInCode, hdash', hquote, bracketLevel_eq_none_of_looksLike hcons hlevel]

/-- **The lexer looks ahead** no further than to the next space, and in strings and comments no further than to
the next character. -/
theorem next_looksAhead : ∃ w n, LooksAhead (p.next c) c rest w n := by
  cases hbreak : isLineBreak c with
  | true =>
    by_cases hfeed : c = '\r' ∧ rest.head? = some '\n'
    · obtain ⟨rfl, hhead⟩ := hfeed
      obtain ⟨more, rfl⟩ := List.head?_eq_some_iff.1 hhead
      exact ⟨_, 1, rfl, by simp, rfl, fun more' hlook => rfl⟩
    · refine ⟨p.lexeme (c :: rest) 1 .lineEnd p.region.afterLineEnd, 0, ?_, Nat.zero_le _, rfl,
        fun more' hlook => ?_⟩
      · simp [Position.next, hbreak, hfeed]
      · have hfeed' : ¬(c = '\r' ∧ more'.head? = some '\n') := by
          rintro ⟨hc, hhead⟩
          obtain ⟨u, rfl⟩ := List.head?_eq_some_iff.1 hhead
          obtain ⟨v, rfl⟩ := hlook.start ['\n'] (by simp) (List.prefix_append ['\n'] u)
          exact hfeed ⟨hc, rfl⟩
        simp [Position.next, hbreak, hfeed', Position.lexeme]
  | false =>
    -- Within a line each region has a reader of its own.
    have hnext : ∀ read : Text → Lexeme, (∀ t, p.next c t = read t) →
        (∃ w n, LooksAhead read c rest w n) → ∃ w n, LooksAhead (p.next c) c rest w n := by
      intro read hread h
      rwa [funext hread]
    cases hregion : p.region with
    | code =>
      refine hnext (p.nextInCode c) (fun t => ?_) (nextInCode_looksAhead p c rest)
      simp [Position.next, hbreak, hregion]
    | quoted quote =>
      refine hnext (p.nextInQuoted quote c) (fun t => ?_) (nextInQuoted_looksAhead p c rest quote)
      simp [Position.next, hbreak, hregion]
    | lineComment =>
      refine hnext (fun t => p.lexeme (c :: t) 1 .comment .lineComment) (fun t => ?_)
        ⟨_, 0, rfl, Nat.zero_le _, rfl, fun more' hlook => rfl⟩
      simp [Position.next, hbreak, hregion]
    | blockComment level =>
      refine hnext (p.nextInBrackets level .comment (.blockComment level) c) (fun t => ?_)
        (nextInBrackets_looksAhead p c rest level _ _)
      simp [Position.next, hbreak, hregion]
    | longString level =>
      refine hnext (p.nextInBrackets level .literal (.longString level) c) (fun t => ?_)
        (nextInBrackets_looksAhead p c rest level _ _)
      simp [Position.next, hbreak, hregion]

end

/-! ## §3 The lexemes of the new source

The new source is lexed piece by piece: pieces that are kept give their lexeme again, and a comment that is
replaced gives the lexeme of a space.
-/

section

variable {p : Position} {c : Char} {rest : Text} {w : Lexeme} {n : Nat}

theorem LooksAhead.text_append (h : LooksAhead (p.next c) c rest w n) (more : Text) :
    w.text ++ more = c :: (rest.take n ++ more) := by
  rw [h.text_eq, List.cons_append]

theorem LooksAhead.lex_eq (h : LooksAhead (p.next c) c rest w n) :
    lex p (c :: rest) = w :: lex w.after (rest.drop n) := by
  have hlength : w.text.length - 1 = n := by simp [h.text_eq, h.le_length]
  rw [lex, h.read_eq, hlength]

/-- In front of a text that looks like the old one the same lexeme is read. -/
theorem LooksAhead.lex_append (h : LooksAhead (p.next c) c rest w n) {more' : Text}
    (hlook : LooksLike w.after.region (rest.drop n) more') :
    lex p (w.text ++ more') = w :: lex w.after more' := by
  have htake : (rest.take n).length = n := by simp [h.le_length]
  have hlength : w.text.length - 1 = n := by simp [h.text_eq, h.le_length]
  rw [h.text_append, lex, h.look more' hlook, hlength, List.drop_left' htake]

end

/-- What is left behind a character is shorter than the text. -/
theorem length_drop_lt {c : Char} {rest : Text} {k : Nat} (hk : (c :: rest).length = k) (n : Nat) :
    (rest.drop n).length < k := by
  rw [← hk, List.length_drop, List.length_cons]
  omega

/-- The lexemes of a text make up the text. -/
theorem text_lex (p : Position) (t : Text) : (lex p t).flatMap Lexeme.text = t := by
  induction h : t.length using Nat.strongRecOn generalizing p t with
  | _ k ih =>
    cases t with
    | nil => simp [lex]
    | cons c rest =>
      obtain ⟨w, n, hw⟩ := next_looksAhead p c rest
      have hrest := ih (rest.drop n).length (length_drop_lt h n) w.after (rest.drop n) rfl
      rw [hw.lex_eq, List.flatMap_cons, hrest, hw.text_append, List.take_append_drop]

theorem looksLike_pieces (p : Position) (t : Text) :
    LooksLike p.region t (textOf (pieces false p.region (lex p t))) := by
  constructor
  · intro v hv h
    have hstart := start_of_pieces hv h
    rwa [text_lex] at hstart
  · intro hregion
    -- Comments open in code only, so elsewhere the first lexeme is kept.
    cases t with
    | nil => simp [lex, pieces, textOf]
    | cons c rest =>
      obtain ⟨w, n, hw⟩ := next_looksAhead p c rest
      have hkeeps : w.opensComment p.region = false := by simp [Lexeme.opensComment, hregion]
      rw [hw.lex_eq, pieces_of_keeps (by simp [hkeeps]), textOf_cons]
      simp [Piece.lexeme, hw.text_eq]

/-- Comments leave the depth alone. -/
theorem depth_of_comment {p : Position} {c : Char} {rest : Text} (h : (p.next c rest).kind = .comment) :
    (p.next c rest).after.depth = p.depth := by
  revert h
  -- Region by region: the depth only changes at single characters of code.
  unfold Position.next
  split
  · exact fun _ => rfl
  split
  · unfold Position.nextInCode
    split
    · split <;> exact fun _ => rfl
    split
    · exact fun _ => rfl
    split
    · exact fun _ => rfl
    · exact fun h => by cases h
  · unfold Position.nextInQuoted
    split <;> exact fun _ => rfl
  · exact fun _ => rfl
  · unfold Position.nextInBrackets
    split <;> exact fun _ => rfl
  · unfold Position.nextInBrackets
    split <;> exact fun _ => rfl

/-- Behind a comment that closes on its line the lexer is in code, as deep as in front of it. -/
theorem exists_behind {p : Position} {t : Text} (h : closesOnLine (lex p t) = true) (region : Region) :
    ∃ u, u.length < t.length ∧ pieces true region (lex p t) =
      .space ⟨.code, p.depth⟩ :: pieces false .code (lex ⟨.code, p.depth⟩ u) := by
  induction hk : t.length using Nat.strongRecOn generalizing p t region with
  | _ k ih =>
    cases t with
    | nil =>
      rw [lex] at h
      cases h
    | cons c rest =>
      obtain ⟨w, n, hw⟩ := next_looksAhead p c rest
      have hlength : (rest.drop n).length < k := length_drop_lt hk n
      rw [hw.lex_eq] at h ⊢
      -- Up to the closing bracket everything is comment, so no brace is counted.
      obtain ⟨hkind, hcloses⟩ := Bool.and_eq_true_iff.1 h
      have hdepth : w.after.depth = p.depth := by
        rw [← hw.read_eq]
        exact depth_of_comment (by simpa [hw.read_eq] using hkind)
      by_cases hcode : w.after.region = .code
      · have hafter : w.after = ⟨.code, p.depth⟩ := by rw [← hcode, ← hdepth]
        refine ⟨rest.drop n, hlength, ?_⟩
        rw [pieces_of_closes hcode, hafter]
      · have hrest : closesOnLine (lex w.after (rest.drop n)) = true := by simpa [hcode] using hcloses
        obtain ⟨u, hu, hpieces⟩ := ih _ hlength hrest w.after.region rfl
        rw [pieces_of_inside hcode, hpieces, hdepth]
        exact ⟨u, hu.trans hlength, rfl⟩

/-- **The lexemes of the new source** are the pieces of the old one. -/
theorem lex_pieces (p : Position) (t : Text) :
    lex p (textOf (pieces false p.region (lex p t))) =
      (pieces false p.region (lex p t)).map Piece.lexeme := by
  -- A replaced comment is many lexemes, so the induction is on the length of the text.
  induction hk : t.length using Nat.strongRecOn generalizing p t with
  | _ k ih =>
    cases t with
    | nil => simp [lex, pieces, textOf]
    | cons c rest =>
      obtain ⟨w, n, hw⟩ := next_looksAhead p c rest
      have hlength : (rest.drop n).length < k := length_drop_lt hk n
      rw [hw.lex_eq]
      by_cases hopens : w.opensComment p.region = true ∧ closesOnLine (lex w.after (rest.drop n)) = true
      · -- A space is read in code, and leaves the depth alone as the comment has done.
        obtain ⟨u, hu, hpieces⟩ := exists_behind hopens.2 w.after.region
        obtain ⟨hcode, hkind, -⟩ := Lexeme.opensComment_iff.1 hopens.1
        have hdepth : w.after.depth = p.depth := by
          rw [← hw.read_eq]
          exact depth_of_comment (by rw [hw.read_eq, hkind])
        have hp : p = ⟨.code, p.depth⟩ := by rw [← hcode]
        have hspace : ∀ v, lex p (' ' :: v) = ⟨[' '], .code, ⟨.code, p.depth⟩⟩ :: lex ⟨.code, p.depth⟩ v := by
          intro v
          rw [hp, lex]
          rfl
        rw [pieces_of_opens hopens.1 hopens.2, hpieces, hdepth, textOf_cons, List.map_cons]
        have hrest := ih u.length (by omega) ⟨.code, p.depth⟩ u rfl
        exact (hspace _).trans (congrArg _ hrest)
      · -- The lexeme stays, and what the lexer has looked at behind it is still there.
        rw [pieces_of_keeps (by simpa using hopens), textOf_cons, List.map_cons]
        have hrest := ih _ hlength w.after (rest.drop n) rfl
        exact (hw.lex_append (looksLike_pieces w.after (rest.drop n))).trans (congrArg _ hrest)

/-! ## §4 The lines of the new source -/

/-- The lexemes are those of `first` up to a line end and `lines` behind it, and their pieces are cut there
as well. -/
structure CutsAs (ws first : List Lexeme) (lines : List LexedLine) : Prop where
  cut : ∀ p, cutAtLineEnds p ws = ⟨p, first⟩ :: lines
  closes : closesOnLine ws = closesOnLine first
  kept : ∀ p region, cutAtLineEnds p ((pieces false region ws).map Piece.lexeme) =
    ⟨p, (pieces false region first).map Piece.lexeme⟩ :: lines.map LexedLine.spaced
  /-- A comment that closes on its line is not cut. -/
  inside : closesOnLine ws = true → ∀ p region,
    cutAtLineEnds p ((pieces true region ws).map Piece.lexeme) =
      ⟨p, (pieces true region first).map Piece.lexeme⟩ :: lines.map LexedLine.spaced

theorem exists_cutsAs (ws : List Lexeme) : ∃ first lines, CutsAs ws first lines := by
  induction ws with
  | nil => exact ⟨[], [], fun p => rfl, rfl, fun p region => rfl, fun h => by cases h⟩
  | cons w ws ih =>
    obtain ⟨first, lines, hcut, hcloses, hkept, hinside⟩ := ih
    by_cases hend : w.kind = .lineEnd
    · -- A line end opens no comment and ends every one that would be replaced.
      have hopens : ∀ region, w.opensComment region = false := by simp [Lexeme.opensComment, hend]
      refine ⟨[], cutAtLineEnds w.after ws, fun p => ?_, ?_, fun p region => ?_, fun h => ?_⟩
      · rw [cutAtLineEnds, if_pos hend]
      · simp [closesOnLine, hend]
      · rw [pieces_of_keeps (by simp [hopens]), List.map_cons, Piece.lexeme, cutAtLineEnds, if_pos hend, hcut,
          List.map_cons]
        exact congrArg (_ :: ·) (hkept w.after w.after.region)
      · simp [closesOnLine, hend] at h
    · -- Any other lexeme joins the first line, where the same is seen of what follows it.
      have hfirst : closesOnLine (w :: ws) = closesOnLine (w :: first) := by simp [closesOnLine, hcloses]
      have hcons : ∀ p (x : Lexeme) (xs ys : List Lexeme), x.kind ≠ .lineEnd →
          cutAtLineEnds x.after xs = ⟨x.after, ys⟩ :: lines.map LexedLine.spaced →
          cutAtLineEnds p (x :: xs) = ⟨p, x :: ys⟩ :: lines.map LexedLine.spaced := by
        intro p x xs ys hx hxs
        rw [cutAtLineEnds, if_neg hx, hxs]
      refine ⟨w :: first, lines, fun p => ?_, hfirst, fun p region => ?_, fun h p region => ?_⟩
      · rw [cutAtLineEnds, if_neg hend, hcut]
      · by_cases hopens : w.opensComment region = true ∧ closesOnLine ws = true
        · rw [pieces_of_opens hopens.1 hopens.2, pieces_of_opens hopens.1 (hcloses ▸ hopens.2)]
          exact hinside hopens.2 p w.after.region
        · have hkeeps : w.opensComment region = true → closesOnLine ws = false := by simpa using hopens
          rw [pieces_of_keeps hkeeps, pieces_of_keeps (fun h => hcloses ▸ hkeeps h)]
          exact hcons p w _ _ hend (hkept w.after w.after.region)
      · by_cases hcode : w.after.region = .code
        · rw [pieces_of_closes hcode, pieces_of_closes hcode]
          exact hcons p ⟨[' '], .code, w.after⟩ _ _ (by simp) (hkept w.after .code)
        · have hrest : closesOnLine ws = true := by simpa [hcode] using (Bool.and_eq_true_iff.1 h).2
          rw [pieces_of_inside hcode, pieces_of_inside hcode]
          exact hinside hrest p w.after.region

/-- **The lines of the new source** are those of the old one, each with spaces for its comments. -/
theorem lexedLines_spacedSource (source : Text) :
    lexedLines (spacedSource source) = (lexedLines source).map LexedLine.spaced := by
  obtain ⟨first, lines, hcuts⟩ := exists_cutsAs (lex {} source)
  have hlex : lex {} (spacedSource source) = (pieces false .code (lex {} source)).map Piece.lexeme :=
    lex_pieces {} source
  rw [lexedLines, lexedLines, hlex, hcuts.kept, hcuts.cut, List.map_cons]
  rfl

/-! ## §5 The code of the lines -/

/-- The text of a lexeme that belongs to no comment. -/
def Lexeme.code (w : Lexeme) : Text := if w.kind = .comment then [] else w.text

/-- What a piece adds to the code of the old line. -/
def Piece.code : Piece → Text
  | .kept w => w.code
  | .space _ => []

/-- For each space the code in front of it, which starts with `before`, and the code behind it. -/
def seams (before : Text) : List Piece → List (Text × Text)
  | [] => []
  | .kept w :: xs => seams (before ++ w.code) xs
  | .space _ :: xs => (before, xs.flatMap Piece.code) :: seams before xs

/-- The code in front of each replaced comment of a line, and the code behind it. -/
def LexedLine.seams (l : LexedLine) : List (Text × Text) := Lexis.seams [] l.pieces

theorem LexedLine.code_eq (l : LexedLine) : l.code = l.lexemes.flatMap Lexeme.code := by
  obtain ⟨start, ws⟩ := l
  simp only [LexedLine.code, LexedLine.kept, LexedLine.chars]
  induction ws with
  | nil => rfl
  | cons w ws ih =>
    rw [List.flatMap_cons, List.flatMap_cons, List.filter_append, List.map_append, ih]
    congr 1
    by_cases hkind : w.kind = .comment <;> simp [Lexeme.chars, Lexeme.code, List.filter_map, Function.comp_def, hkind]

/-- What is replaced holds no code. -/
theorem code_pieces (ws : List Lexeme) (region : Region) :
    (pieces false region ws).flatMap Piece.code = ws.flatMap Lexeme.code ∧
      (closesOnLine ws = true → (pieces true region ws).flatMap Piece.code = ws.flatMap Lexeme.code) := by
  -- Both at once, for behind the opener of a comment the second one takes over, and behind its closer the first
  -- one.
  induction ws generalizing region with
  | nil => exact ⟨rfl, fun h => by cases h⟩
  | cons w ws ih =>
    constructor
    · by_cases hopens : w.opensComment region = true ∧ closesOnLine ws = true
      · have hcode : w.code = [] := if_pos (Lexeme.opensComment_iff.1 hopens.1).2.1
        rw [pieces_of_opens hopens.1 hopens.2, (ih _).2 hopens.2, List.flatMap_cons, hcode, List.nil_append]
      · rw [pieces_of_keeps (by simpa using hopens), List.flatMap_cons, List.flatMap_cons, (ih _).1]
        rfl
    · intro h
      obtain ⟨hkind, hcloses⟩ := Bool.and_eq_true_iff.1 h
      have hcode : w.code = [] := if_pos (by simpa using hkind)
      rw [List.flatMap_cons, hcode, List.nil_append]
      by_cases hregion : w.after.region = .code
      · rw [pieces_of_closes hregion, List.flatMap_cons, (ih _).1]
        rfl
      · rw [pieces_of_inside hregion]
        exact (ih _).2 (by simpa [hregion] using hcloses)

theorem spaced_pieces {before : Text} {xs : List Piece} (h : ∀ s ∈ seams before xs, Apart s.1 s.2) :
    Spaced before (xs.flatMap Piece.code) ((xs.map Piece.lexeme).flatMap Lexeme.code) := by
  induction xs generalizing before with
  | nil => exact .nil before
  | cons x xs ih =>
    cases x with
    | kept w =>
      -- The characters of a lexeme that stays all stay.
      have hkeep : ∀ (u : Text) before, Spaced (before ++ u) (xs.flatMap Piece.code)
          ((xs.map Piece.lexeme).flatMap Lexeme.code) → Spaced before (u ++ xs.flatMap Piece.code)
            (u ++ (xs.map Piece.lexeme).flatMap Lexeme.code) := by
        intro u
        induction u with
        | nil => exact fun before h => by simpa using h
        | cons c u ihu => exact fun before h => .keep c (ihu _ (by simpa using h))
      exact hkeep w.code before (ih h)
    | space after =>
      have hseams : ∀ s ∈ seams before xs, Apart s.1 s.2 := fun s hs => h s (List.mem_cons_of_mem _ hs)
      exact .space (h _ List.mem_cons_self) (ih hseams)

/-- **The code of a line** with spaces for its comments is the code of the line with these spaces put into it, if
each of them comes between two parts that are apart. -/
theorem LexedLine.spaced_code {l : LexedLine} (h : ∀ s ∈ l.seams, Apart s.1 s.2) :
    Spaced [] l.code l.spaced.code := by
  rw [LexedLine.code_eq, LexedLine.code_eq, ← (code_pieces l.lexemes l.start.region).1]
  exact spaced_pieces h

end LuaAccessors.Lexis
