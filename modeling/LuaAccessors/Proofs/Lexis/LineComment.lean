import LuaAccessors.Proofs.Lexis.Reread

/-!
# Lines without block comments

Where no block comment stands, a comment is the end of its line. What is kept of the line is then a
start of it, and no two brackets come together that were apart before.

- `LexedLine.NoBlockComment`: the lexer meets no block comment on the line;
- `CommentsLast`: behind a comment there are only comments;
- `ScansAs.noNewBracket`: such lines can be read again.
-/

namespace LuaAccessors.Lexis

/-- The lexer is nowhere on the line inside a block comment. -/
def LexedLine.NoBlockComment (l : LexedLine) : Prop :=
  ∀ w ∈ l.lexemes, ∀ level, w.after.region ≠ .blockComment level

/-- Behind a character of a comment there are only characters of comments. -/
def CommentsLast (chars : List (Char × Kind)) : Prop :=
  chars.Pairwise fun p q => p.2 = .comment → q.2 = .comment

/-! ## §1 Comments at the end of a line -/

/-- Behind the start of a line comment every lexeme is part of it. -/
theorem kind_of_commentsFollow {ws : List Lexeme} (h : CommentsFollow .lineComment ws) :
    ∀ w ∈ ws, w.kind = .comment := by
  induction ws with
  | nil => simp
  | cons w ws ih =>
    obtain ⟨hstep, hrest⟩ := h
    obtain ⟨hkind, hregion⟩ := hstep.within rfl
    rw [hregion] at hrest
    intro v hv
    rcases List.mem_cons.1 hv with rfl | hv
    · exact hkind
    · exact ih hrest v hv

theorem commentsLast_of_noBlockComment {region : Region} {ws : List Lexeme}
    (h : CommentsFollow region ws) (hregion : ∀ level, region ≠ .blockComment level)
    (hws : ∀ w ∈ ws, ∀ level, w.after.region ≠ .blockComment level) :
    CommentsLast (ws.flatMap Lexeme.chars) := by
  induction ws generalizing region with
  | nil => exact List.Pairwise.nil
  | cons w ws ih =>
    obtain ⟨hstep, hrest⟩ := h
    have hnext := hws w List.mem_cons_self
    have htail := ih hrest hnext fun v hv => hws v (List.mem_cons_of_mem _ hv)
    have hkinds : ∀ p ∈ w.chars, p.2 = w.kind := by
      intro p hp
      obtain ⟨c, -, rfl⟩ := List.mem_map.1 hp
      rfl
    rw [List.flatMap_cons]
    -- The characters of the lexeme, those behind it, and the two together.
    apply List.pairwise_append.2
    refine ⟨?_, htail, ?_⟩
    · -- All characters of one lexeme are of its kind.
      apply List.pairwise_of_forall_mem_list
      intro p hp q hq hcomment
      rw [hkinds q hq, ← hkinds p hp]
      exact hcomment
    · intro p hp q hq hcomment
      obtain ⟨v, hv, hqv⟩ := List.mem_flatMap.1 hq
      obtain ⟨c, -, rfl⟩ := List.mem_map.1 hqv
      rw [hkinds p hp] at hcomment
      -- Without block comments a comment is a line comment, and the rest of the line belongs to it.
      rcases hstep.start hcomment with hline | ⟨level, hblock⟩ | ⟨level, hblock⟩
      · rw [hline] at hrest
        exact kind_of_commentsFollow hrest v hv
      · exact absurd hblock (hnext level)
      · exact absurd hblock (hregion level)

/-! ## §2 What is kept of such a line -/

theorem step_code {mode : Mode} {c : Char} {rest : Text} {comments : Bool}
    (hsound : mode.Sound (c :: rest)) (h : (mode.step comments c rest).1 = .code) :
    bracketLevel (c :: rest) = none ∨ c = '\n' := by
  have hstep := stepCase comments mode c rest
  generalize mode.step comments c rest = s at hstep h
  cases hstep with
  | code _ _ hlevel => exact .inl hlevel
  | lineEnd => exact .inr rfl
  | delimiterEnd => exact absurd h hsound.role_ne
  | delimiter => exact absurd h hsound.role_ne
  | _ => cases h

/-- What is kept is a start of the text. -/
theorem keptText_prefix {mode : Mode} {t : Text} (h : CommentsLast (t.zip (kinds true mode t))) :
    keptText mode t <+: t := by
  induction t generalizing mode with
  | nil => exact List.prefix_rfl
  | cons c rest ih =>
    rw [kinds_cons, List.zip_cons_cons] at h
    obtain ⟨hfirst, hrest⟩ := List.pairwise_cons.1 h
    by_cases hc : (mode.step true c rest).1 = .comment
    · -- All the rest is comment too, so nothing is kept.
      have hnone : kept mode (c :: rest) = [] := by
        apply List.filter_eq_nil_iff.2
        intro p hp
        rw [kinds_cons, List.zip_cons_cons] at hp
        have hp' : p.2 = .comment := by
          rcases List.mem_cons.1 hp with rfl | hp
          · exact Role.kind_eq_comment_iff.2 hc
          · exact hfirst p hp (Role.kind_eq_comment_iff.2 hc)
        simp [hp']
      rw [keptText, hnone]
      exact List.nil_prefix
    · rw [keptText_cons hc]
      exact List.cons_prefix_cons.2 ⟨rfl, ih hrest⟩

theorem noNewBracket_of_commentsLast {mode : Mode} {t : Text} (hsound : mode.Sound t)
    (h : CommentsLast (t.zip (kinds true mode t))) : NoNewBracket (kept mode t) := by
  induction t generalizing mode with
  | nil => exact noNewBracket_of_not_mem (by simp [kept])
  | cons c rest ih =>
    have hlast := h
    rw [kinds_cons, List.zip_cons_cons] at h
    obtain ⟨-, hrest⟩ := List.pairwise_cons.1 h
    have htail := ih (sound_step true hsound) hrest
    -- What is kept behind a character of a comment is all that is kept.
    by_cases hc : (mode.step true c rest).1 = .comment
    · have hsame : kept mode (c :: rest) = kept (mode.step true c rest).2 rest := by
        simp [kept, hc, Role.kind]
      rw [hsame]
      exact htail
    · have hcons : kept mode (c :: rest) =
          (c, (mode.step true c rest).1.kind) :: kept (mode.step true c rest).2 rest := by
        have hkind : (mode.step true c rest).1.kind ≠ .comment :=
          fun h' => hc (Role.kind_eq_comment_iff.1 h')
        simp [kept, hkind]
      have hstart : c :: keptText (mode.step true c rest).2 rest <+: c :: rest :=
        List.cons_prefix_cons.2 ⟨rfl, keptText_prefix hrest⟩
      rw [hcons]
      intro d more hsuffix
      rcases List.suffix_cons_iff.1 hsuffix with heq | hsuffix
      · -- A bracket that is kept stands in front of what it has stood in front of before.
        obtain ⟨hd, rfl⟩ := List.cons.inj heq
        obtain ⟨rfl, hkind⟩ := Prod.mk.inj hd
        rcases step_code hsound (Role.kind_eq_code_iff.1 hkind.symm) with hnone | rfl
        · cases hlevel : bracketLevel
              (d :: (kept (mode.step true d rest).2 rest).map fun p => p.1) with
          | none => rfl
          | some level =>
            have hopener := bracketLevel_eq_some_iff.1 hlevel
            have := bracketLevel_eq_some_iff.2 (hopener.trans hstart)
            rw [hnone] at this
            cases this
        · exact bracketLevel_cons_eq_none (by decide) _
      · exact htail d more hsuffix

/-! ## §3 Scans without block comments -/

theorem carry_eq_blockComment_iff {carry : Carry} {level : Nat} :
    carry.mode.region = .blockComment level ↔ carry = .blockComment level := by
  cases carry <;> simp [Carry.mode, Mode.region]

section

variable {state : ScanState} {raw : Text} {ws : List Lexeme} {q : Position}
  (h : LineReads state.position raw ws q) (hcarry : ∀ level, state.carry ≠ .blockComment level)
  (hws : (LexedLine.mk state.position ws).NoBlockComment)

include h hcarry hws

/-- A line without block comments can be read again. -/
theorem noNewBracket_of_noBlockComment : NoNewBracket (LexedLine.mk state.position ws).kept := by
  have hregion : ∀ level, state.position.region ≠ .blockComment level :=
    fun level hblock => hcarry level (carry_eq_blockComment_iff.1 hblock)
  have hlast := commentsLast_of_noBlockComment h.comments hregion hws
  have hmode : state.position.region.mode = state.carry.mode := region_carry_mode state.carry
  rw [h.chars_eq, hmode] at hlast
  rw [h.kept_eq]
  exact noNewBracket_of_commentsLast (sound_carry state.carry raw) hlast

theorem carry_scanLine_ne_blockComment (level : Nat) :
    (scanLine state raw).2.carry ≠ .blockComment level := by
  intro hblock
  -- The line stops in no block comment: neither its start nor any of its lexemes is in one.
  have hq : ∀ k, q.region ≠ .blockComment k := by
    intro k
    rw [← h.stop_eq]
    cases hlast : ws.getLast? with
    | none => exact fun hk => hcarry k (carry_eq_blockComment_iff.1 hk)
    | some w => exact hws w (List.mem_of_getLast? hlast) k
  have hposition := congrArg Position.region (scanLine_agrees h).2
  have hstart : (scanLine state raw).2.position.region = .blockComment level :=
    carry_eq_blockComment_iff.2 hblock
  rw [hstart] at hposition
  have hend : q.region.afterLineEnd = .blockComment level := hposition.symm
  unfold Region.afterLineEnd at hend
  split at hend
  · exact hq level hend
  · cases hend

end

/-- **Lines without block comments** can all be read again, and no block comment is open behind
them. -/
theorem ScansAs.noNewBracket {state stop : ScanState} {ls : List LexedLine}
    {lines : List ScannedLine} (h : ScansAs state ls lines stop)
    (hcarry : ∀ level, state.carry ≠ .blockComment level) (hls : ∀ l ∈ ls, l.NoBlockComment) :
    (∀ l ∈ ls, NoNewBracket l.kept) ∧ ∀ level, stop.carry ≠ .blockComment level := by
  -- Along the lines: no line leaves a block comment open for the next one.
  induction h with
  | nil state => exact ⟨by simp, hcarry⟩
  | cons hraw hreads rest ih =>
    have hfirst := hls _ List.mem_cons_self
    have hnext := carry_scanLine_ne_blockComment hreads hcarry hfirst
    obtain ⟨hrest, hstop⟩ := ih hnext fun l hl => hls l (List.mem_cons_of_mem _ hl)
    refine ⟨fun l hl => ?_, hstop⟩
    rcases List.mem_cons.1 hl with rfl | hl
    · exact noNewBracket_of_noBlockComment hreads hcarry hfirst
    · exact hrest l hl

end LuaAccessors.Lexis
