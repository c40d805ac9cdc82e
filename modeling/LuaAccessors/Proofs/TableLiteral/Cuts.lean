import LuaAccessors.Proofs.TableLiteral.Joined
import LuaAccessors.Proofs.Text.Cut

/-!
# Cuts at commas

The content of a table is cut into entries at the commas that stand in code and outside braces, and nowhere else.
Where it is cut can be told from the pieces alone: none of them has such a comma of its own, and all but the last
one close what they open. Both survive trimming within a line, so entries that are read again, alone or joined by
commas, are cut into the same entries.

- `TopComma`: a comma in code at depth zero, with `topComma_append_iff` and `topComma_append_add_iff` for texts one
  after the other;
- `cutAt_cutAtCommas`: the content is cut at these commas;
- `Uncut`, `Closed`, `cutAt_iff`: the pieces that a text is cut into;
- `Resplits`, `Resplits.splitEntries_join`: entries that are cut into themselves;
- `splitEntries_exact_and_stable`: all of it together.
-/

namespace LuaAccessors.TableLiteral

open Lexis

/-! ## §1 Commas at depth zero

Where a content is cut, said of the content itself: at the commas that are code and have no open brace in front
of them.
-/

/-- The `i`th character of a text, read from `mode` on at some depth of braces, is a comma in code at depth zero. A
closing brace at depth zero leaves the depth at zero. -/
structure TopComma (mode : Mode) (depth : Nat) (t : Text) (i : Nat) : Prop where
  comma : t[i]? = some ','
  code : (roles false mode t)[i]? = some .code
  depth_eq : depthAfter depth (t.take i) ((roles false mode t).take i) = 0

theorem not_topComma_nil (mode : Mode) (depth i : Nat) : ¬TopComma mode depth [] i :=
  fun h => by cases h.comma

theorem topComma_zero_iff {mode : Mode} {depth : Nat} {c : Char} {rest : Text} :
    TopComma mode depth (c :: rest) 0 ↔ c = ',' ∧ (mode.step false c rest).1 = .code ∧ depth = 0 :=
  ⟨fun h => ⟨Option.some.inj h.comma, Option.some.inj h.code, h.depth_eq⟩,
    fun h => ⟨congrArg some h.1, congrArg some h.2.1, h.2.2⟩⟩

theorem topComma_succ_iff {mode : Mode} {depth : Nat} {c : Char} {rest : Text} {i : Nat} :
    TopComma mode depth (c :: rest) (i + 1) ↔
      TopComma (mode.step false c rest).2 (stepDepth depth c (mode.step false c rest).1) rest i :=
  ⟨fun h => ⟨h.comma, h.code, h.depth_eq⟩, fun h => ⟨h.comma, h.code, h.depth_eq⟩⟩

theorem TopComma.lt_length {mode : Mode} {depth i : Nat} {t : Text} (h : TopComma mode depth t i) :
    i < t.length :=
  (List.getElem?_eq_some_iff.1 h.comma).1

/-- The depth depends on the kind of a character only. -/
theorem stepDepth_congr {r r' : Role} (h : r.kind = r'.kind) (depth : Nat) (c : Char) :
    stepDepth depth c r = stepDepth depth c r' := by
  have hcode : r = .code ↔ r' = .code := by rw [← Role.kind_eq_code_iff, h, Role.kind_eq_code_iff]
  simp only [stepDepth, hcode]

section

variable {b : Char} (hb : isDelimiterChar b = false) (mode : Mode) (depth : Nat) (t u : Text) (i : Nat)

include hb

/-- Commas in front of a character that is in no delimiter. -/
theorem topComma_append_iff (hi : i < t.length) :
    TopComma mode depth (t ++ b :: u) i ↔ TopComma mode depth t i := by
  induction t generalizing mode depth i with
  | nil => cases hi
  | cons c t ih =>
    -- The role of an escaped quote may differ, but not its kind, and the kind decides both code and depth.
    obtain ⟨hmode, hkind⟩ := step_append_cons hb false mode c t u
    rw [List.cons_append]
    cases i with
    | zero => rw [topComma_zero_iff, topComma_zero_iff, ← Role.kind_eq_code_iff, hkind, Role.kind_eq_code_iff]
    | succ i =>
      rw [topComma_succ_iff, topComma_succ_iff, hmode, stepDepth_congr hkind]
      exact ih _ _ _ (Nat.lt_of_succ_lt_succ hi)

/-- Commas behind it. -/
theorem topComma_append_add_iff :
    TopComma mode depth (t ++ b :: u) (t.length + i) ↔
      TopComma (mode.after false t) (depthAfter depth t (roles false mode t)) (b :: u) i := by
  induction t generalizing mode depth with
  | nil => rw [List.length_nil, Nat.zero_add]; rfl
  | cons c t ih =>
    obtain ⟨hmode, hkind⟩ := step_append_cons hb false mode c t u
    rw [List.cons_append, List.length_cons, Nat.add_right_comm, topComma_succ_iff, hmode, stepDepth_congr hkind, ih]
    rfl

end

/-- Blanks have no commas, and change nothing in front of a text. -/
theorem topComma_blanks_add_iff {w : Text} (hw : Text.AllBlank w) (depth : Nat) (t : Text) (i : Nat) :
    TopComma .code depth (w ++ t) (w.length + i) ↔ TopComma .code depth t i := by
  induction w with
  | nil => rw [List.length_nil, Nat.zero_add, List.nil_append]
  | cons c w ih =>
    obtain ⟨hc, hw⟩ := Text.allBlank_cons.1 hw
    have hdepth : stepDepth depth c .code = depth := by
      simp [stepDepth, ne_of_isBlank hc (d := '{') rfl, ne_of_isBlank hc (d := '}') rfl]
    rw [List.cons_append, List.length_cons, Nat.add_right_comm, topComma_succ_iff, step_code_of_isBlank hc, hdepth,
      ih hw]

/-! ## §2 The content is cut at these commas -/

/-- Where the mask is read, the depth changes as it does along the text. -/
theorem braceDepth_maskChar {mode : Mode} {c : Char} {rest : Text} (hsound : mode.Sound (c :: rest))
    (hcomment : mode.uncommented = mode) (depth : Nat) :
    braceDepth depth (maskChar c (mode.step false c rest).1) = stepDepth depth c (mode.step false c rest).1 := by
  have hopen := shown_eq_iff hsound hcomment (d := '{') rfl rfl (by decide)
  have hclose := shown_eq_iff hsound hcomment (d := '}') rfl rfl (by decide)
  simp only [braceDepth, stepDepth, hopen, hclose]
  by_cases hcode : (mode.step false c rest).1 = .code <;> simp [hcode]

theorem cutAt_cutAtCommas {mode : Mode} {t : Text} (hsound : mode.Sound t) (hcomment : mode.uncommented = mode)
    (depth : Nat) : Text.CutAt ',' (TopComma mode depth t) t (cutAtCommas depth (markedFrom mode t)) := by
  induction t generalizing mode depth with
  | nil => exact .last (not_topComma_nil mode depth)
  | cons c rest ih =>
    have hcomma := shown_eq_iff hsound hcomment (d := ',') rfl rfl (by decide)
    have hrest := ih (sound_step false hsound) (uncommented_step hsound hcomment).1
      (stepDepth depth c (mode.step false c rest).1)
    have hdepth := braceDepth_maskChar hsound hcomment depth
    rw [markedFrom_cons]
    -- A comma that is visible at depth zero is one in code at depth zero, and the other way round.
    by_cases hcut : maskChar c (mode.step false c rest).1 = ',' ∧ depth = 0
    · obtain ⟨rfl, hcode⟩ := hcomma.1 hcut.1
      have hsame : stepDepth depth ',' (mode.step false ',' rest).1 = depth := by
        rw [← hdepth, hcut.1]
        rfl
      rw [hsame] at hrest
      rw [cutAtCommas, if_pos hcut]
      refine .cons [] (by simp) (topComma_zero_iff.2 ⟨rfl, hcode, hcut.2⟩) (hrest.congr fun i => ?_)
      rw [List.length_nil, Nat.zero_add, Nat.add_comm, topComma_succ_iff, hsame]
    · rw [cutAtCommas_cons c _ hcut, hdepth]
      refine .keep (fun h => hcut ?_) (hrest.congr fun i => topComma_succ_iff.symm)
      obtain ⟨hc, hcode, hzero⟩ := topComma_zero_iff.1 h
      exact ⟨hcomma.2 ⟨hc, hcode⟩, hzero⟩

theorem cutAt_marked (content : Text) :
    Text.CutAt ',' (TopComma .code 0 content) content (cutAtCommas 0 (marked content)) :=
  @cutAt_cutAtCommas .code content trivial rfl 0

/-- The entries of a content are the pieces, trimmed, without the blank ones. -/
theorem splitEntries_of_cutAt {content : Text} {pieces : List Text}
    (h : Text.CutAt ',' (TopComma .code 0 content) content pieces) :
    splitEntries content = (pieces.map Text.strip).filter fun entry => !entry.isEmpty := by
  rw [splitEntries, (cutAt_marked content).unique h]

/-! ## §3 The pieces

A piece by itself is read from its start, and not from where the content in front of it has left off. Both
readings are the same, since a comma that is code leaves nothing open.
-/

/-- A text without a comma in code at depth zero. -/
def Uncut (t : Text) : Prop := ∀ i, ¬TopComma .code 0 t i

/-- A text that leaves nothing open: neither a literal nor a brace. -/
structure Closed (t : Text) : Prop where
  after_eq : Mode.code.after false t = .code
  depth_eq : depthAfter 0 t (roles false .code t) = 0

/-- Where a character is code and does not end a line, nothing is open. -/
theorem eq_code_of_step_code {mode : Mode} {c : Char} {rest : Text} (hsound : mode.Sound [])
    (hfeed : c ≠ '\n') (h : (mode.step false c rest).1 = .code) : mode = .code := by
  have hstep := stepCase false mode c rest
  generalize mode.step false c rest = s at hstep h
  cases hstep with
  | code => rfl
  | lineEnd => exact absurd rfl hfeed
  | delimiterEnd => exact absurd hsound.length_lt (by simp)
  | delimiter => exact absurd hsound.length_lt (by simp)
  | _ => cases h

/-- Behind a text that is closed a comma cuts, and what follows the comma is read on its own. -/
theorem Closed.topComma_iff {piece : Text} (h : Closed piece) (rest : Text) :
    TopComma .code 0 (piece ++ ',' :: rest) piece.length ∧
      ∀ i, TopComma .code 0 (piece ++ ',' :: rest) (piece.length + 1 + i) ↔ TopComma .code 0 rest i := by
  have hstep : Mode.step false .code ',' rest = (.code, .code) := step_code_of_isBare rfl false rest
  have hbehind : ∀ i, TopComma .code 0 (piece ++ ',' :: rest) (piece.length + i) ↔
      TopComma .code 0 (',' :: rest) i := fun i => by
    rw [topComma_append_add_iff (b := ',') rfl, h.after_eq, h.depth_eq]
  constructor
  · exact (hbehind 0).2 (topComma_zero_iff.2 ⟨rfl, congrArg Prod.fst hstep, rfl⟩)
  · intro i
    rw [Nat.add_assoc, hbehind, Nat.add_comm, topComma_succ_iff, hstep]
    rfl

/-- A comma cuts only behind a text that is closed. -/
theorem closed_of_topComma {piece rest : Text} (h : TopComma .code 0 (piece ++ ',' :: rest) piece.length) :
    Closed piece := by
  have hcomma := (topComma_append_add_iff (b := ',') rfl .code 0 piece rest 0).1 h
  obtain ⟨-, hcode, hdepth⟩ := topComma_zero_iff.1 hcomma
  exact ⟨eq_code_of_step_code (sound_after_code piece).1 (by decide) hcode, hdepth⟩

/-- In front of the first place where a text is cut there is nothing to cut. -/
theorem uncut_iff {piece : Text} (rest : Text) :
    Uncut piece ↔ ∀ i < piece.length, ¬TopComma .code 0 (piece ++ ',' :: rest) i := by
  have hsame := topComma_append_iff (b := ',') rfl .code 0 piece rest
  constructor
  · exact fun h i hi hcut => h i ((hsame i hi).1 hcut)
  · exact fun h i hcut => h i hcut.lt_length ((hsame i hcut.lt_length).2 hcut)

/-- **The pieces of a text** are those uncut texts that are joined to it by commas and of which all but the last one
are closed. -/
theorem cutAt_iff {t : Text} {pieces : List Text} :
    Text.CutAt ',' (TopComma .code 0 t) t pieces ↔ pieces ≠ [] ∧ Text.join [','] pieces = t ∧
      (∀ piece ∈ pieces, Uncut piece) ∧ pieces.Pairwise fun piece _ => Closed piece := by
  constructor
  · -- Every cut shows that the piece in front of it is closed, so the rest is cut as it is on its own.
    intro h
    refine ⟨h.ne_nil, h.join_eq, ?_⟩
    generalize hcut : TopComma .code 0 t = cut at h
    induction h with
    | last uncut =>
      subst hcut
      exact ⟨fun piece hpiece => List.mem_singleton.1 hpiece ▸ uncut, List.pairwise_singleton _ _⟩
    | @cons cut piece rest pieces uncut ends others ih =>
      subst hcut
      have hclosed := closed_of_topComma ends
      obtain ⟨huncut, hpairs⟩ := ih (funext fun i => propext ((hclosed.topComma_iff rest).2 i).symm)
      exact ⟨List.forall_mem_cons.2 ⟨(uncut_iff rest).2 uncut, huncut⟩,
        List.pairwise_cons.2 ⟨fun _ _ => hclosed, hpairs⟩⟩
  · -- The pieces are put together again from the first one on, which is closed if another one follows.
    rintro ⟨hne, rfl, huncut, hpairs⟩
    induction pieces with
    | nil => exact absurd rfl hne
    | cons piece pieces ih =>
      obtain ⟨hpiece, huncut⟩ := List.forall_mem_cons.1 huncut
      obtain ⟨hclosed, hpairs⟩ := List.pairwise_cons.1 hpairs
      cases pieces with
      | nil => exact .last hpiece
      | cons next more =>
        have hends := (hclosed next List.mem_cons_self).topComma_iff (Text.join [','] (next :: more))
        rw [Text.join_cons_cons]
        refine .cons piece ((uncut_iff _).1 hpiece) hends.1 ?_
        exact (ih (List.cons_ne_nil _ _) huncut hpairs).congr fun i => (hends.2 i).symm

/-! ## §4 Trimming -/

theorem depthAfter_code_eq (t : Text) :
    depthAfter 0 t (roles false .code t) = (braces false .code t).foldl depthBehind 0 :=
  depthAfter_eq_foldl false .code t 0

/-- Blanks in front of a text neither cut it nor leave anything open. -/
theorem uncut_blanks_append {w : Text} (hw : Text.AllBlank w) {t : Text} : Uncut (w ++ t) ↔ Uncut t := by
  constructor
  · exact fun h i hi => h (w.length + i) ((topComma_blanks_add_iff hw 0 t i).2 hi)
  · intro h i hi
    by_cases hlt : i < w.length
    · have hcomma := hi.comma
      rw [List.getElem?_append_left hlt] at hcomma
      exact absurd (hw ',' (List.mem_of_getElem? hcomma)) (by decide)
    · obtain ⟨j, rfl⟩ := Nat.exists_eq_add_of_le (Nat.le_of_not_lt hlt)
      exact h j ((topComma_blanks_add_iff hw 0 t j).1 hi)

theorem closed_blanks_append {w : Text} (hw : Text.AllBlank w) {t : Text} : Closed (w ++ t) ↔ Closed t := by
  have hafter := after_blanks (ignoresBlanks_code false) hw t
  have hbraces := braces_blanks (ignoresBlanks_code false) hw t
  constructor
  · rintro ⟨hcode, hdepth⟩
    rw [depthAfter_code_eq, hbraces, ← depthAfter_code_eq] at hdepth
    exact ⟨hafter.symm.trans hcode, hdepth⟩
  · rintro ⟨hcode, hdepth⟩
    refine ⟨hafter.trans hcode, ?_⟩
    rw [depthAfter_code_eq, hbraces, ← depthAfter_code_eq, hdepth]

/-- Blanks behind a text hide no comma. -/
theorem uncut_of_append_blanks {t w : Text} (hw : Text.AllBlank w) (h : Uncut (t ++ w)) : Uncut t := by
  cases w with
  | nil => rwa [List.append_nil] at h
  | cons b w =>
    have hb := isDelimiterChar_eq_false_of_isBlank (Text.allBlank_cons.1 hw).1
    exact fun i hi => h i ((topComma_append_iff hb .code 0 t w i hi.lt_length).2 hi)

/-- Without a line feed, blanks close nothing. -/
theorem eq_code_of_after_blanks {mode : Mode} (hsound : mode.Sound []) {w : Text} (hw : Text.AllBlank w)
    (hfeed : '\n' ∉ w) (h : mode.after false w = .code) : mode = .code := by
  cases mode with
  | code => rfl
  | quoted quote => cases (after_quoted_blanks hsound hw hfeed false).symm.trans h
  | escaped quote => cases (region_after_escaped_blanks hsound hw hfeed false).symm.trans (congrArg Mode.region h)
  | within left role next => exact absurd hsound.length_lt (by simp)
  | _ =>
    -- Where no quoted string is open, blanks leave the mode as it is.
    have hsame := after_blanks (ignoresBlanks_of_closed hsound rfl).1 hw []
    rw [List.append_nil] at hsame
    exact hsame.symm.trans h

theorem closed_of_append_blanks {t w : Text} (hw : Text.AllBlank w) (hfeed : '\n' ∉ w) (h : Closed (t ++ w)) :
    Closed t := by
  have hafter := h.after_eq
  have hdepth := h.depth_eq
  rw [after_append_blanks _ _ _ hw] at hafter
  rw [depthAfter_code_eq, braces_append_blanks _ _ _ hw, ← depthAfter_code_eq] at hdepth
  exact ⟨eq_code_of_after_blanks (sound_after_code t).1 hw hfeed hafter, hdepth⟩

/-- **Trimming** uncovers no comma, and within a line it opens nothing. -/
theorem Uncut.strip {t : Text} (h : Uncut t) : Uncut t.strip := by
  obtain ⟨b₁, b₂, hb₁, hb₂, ht⟩ := Text.exists_blanks_strip t
  rw [ht, uncut_blanks_append hb₁] at h
  exact uncut_of_append_blanks hb₂ h

theorem Closed.strip {t : Text} (h : Closed t) (hfeed : '\n' ∉ t) : Closed t.strip := by
  obtain ⟨b₁, b₂, hb₁, hb₂, ht⟩ := Text.exists_blanks_strip t
  have hfeed' : '\n' ∉ b₂ := by
    intro hmem
    rw [ht] at hfeed
    exact hfeed (by simp [hmem])
  rw [ht, closed_blanks_append hb₁] at h
  exact closed_of_append_blanks hb₂ hfeed' h

/-! ## §5 Entries that are read again -/

/-- Entries that are cut into themselves when they are read again. -/
structure Resplits (entries : List Text) : Prop where
  ne_nil : ∀ entry ∈ entries, entry ≠ []
  trimmed : ∀ entry ∈ entries, Text.Trimmed entry
  uncut : ∀ entry ∈ entries, Uncut entry
  closed : entries.Pairwise fun entry _ => Closed entry

theorem Resplits.singleton {entries : List Text} (h : Resplits entries) {entry : Text} (hentry : entry ∈ entries) :
    Resplits [entry] := by
  have hself : ∀ {p : Text → Prop}, (∀ e ∈ entries, p e) → ∀ e ∈ [entry], p e :=
    fun hp e he => List.mem_singleton.1 he ▸ hp entry hentry
  exact ⟨hself h.ne_nil, hself h.trimmed, hself h.uncut, List.pairwise_singleton _ _⟩

/-- The entries of a content within a line are cut into themselves. -/
theorem resplits_splitEntries {content : Text} (hfeed : '\n' ∉ content) : Resplits (splitEntries content) := by
  have hcut := cutAt_marked content
  rw [splitEntries_of_cutAt hcut]
  generalize cutAtCommas 0 (marked content) = pieces at hcut
  obtain ⟨-, rfl, huncut, hpairs⟩ := cutAt_iff.1 hcut
  have hpiece : ∀ piece ∈ pieces, '\n' ∉ piece := fun piece hmem h => hfeed (Text.mem_join [','] hmem h)
  have hentry : ∀ {p : Text → Prop}, (∀ piece ∈ pieces, p piece.strip) →
      ∀ entry ∈ (pieces.map Text.strip).filter (fun entry => !entry.isEmpty), p entry := by
    intro p hp entry hmem
    obtain ⟨piece, hpiece, rfl⟩ := List.mem_map.1 (List.mem_filter.1 hmem).1
    exact hp piece hpiece
  constructor
  case ne_nil =>
    intro entry hmem
    simpa using (List.mem_filter.1 hmem).2
  case trimmed => exact hentry fun piece _ => Text.trimmed_strip piece
  -- A piece holds no comma to cut at, and trimming it does not bring one about.
  case uncut => exact hentry fun piece hmem => (huncut piece hmem).strip
  -- What the pieces say of each other is not changed by trimming, for blanks leave every mode as it is.
  case closed =>
    apply List.Pairwise.filter
    rw [List.pairwise_map]
    exact hpairs.imp_of_mem fun hmem _ hclosed => hclosed.strip (hpiece _ hmem)

/-- A blank behind every comma, said of the entries. -/
theorem join_comma_space (entry : Text) (entries : List Text) :
    Text.join [',', ' '] (entry :: entries) = Text.join [','] (entry :: entries.map (' ' :: ·)) := by
  induction entries generalizing entry with
  | nil => rfl
  | cons next more ih =>
    rw [Text.join_cons_cons, ih next, List.map_cons, Text.join_cons_cons, Text.join_cons_of_cons]
    rfl

/-- **Entries that are joined by commas** are cut into the same entries. -/
theorem Resplits.splitEntries_join {entries : List Text} (h : Resplits entries) :
    splitEntries (Text.join [',', ' '] entries) = entries := by
  cases entries with
  | nil => rfl
  | cons entry entries =>
    have hspace : Text.AllBlank [' '] := Text.allBlank_cons.2 ⟨rfl, Text.allBlank_nil⟩
    obtain ⟨huncut, huncuts⟩ := List.forall_mem_cons.1 h.uncut
    obtain ⟨hclosed, hpairs⟩ := List.pairwise_cons.1 h.closed
    obtain ⟨htrimmed, htrimmeds⟩ := List.forall_mem_cons.1 h.trimmed
    -- The commas in between are where the joined text is cut: each entry ends in code and with all its braces
    -- closed.
    have hcut : Text.CutAt ',' (TopComma .code 0 (Text.join [',', ' '] (entry :: entries)))
        (Text.join [',', ' '] (entry :: entries)) (entry :: entries.map (' ' :: ·)) := by
      refine cutAt_iff.2 ⟨List.cons_ne_nil _ _, (join_comma_space entry entries).symm, ?_, ?_⟩
      · refine List.forall_mem_cons.2 ⟨huncut, List.forall_mem_map.2 fun e he => ?_⟩
        exact (uncut_blanks_append hspace).2 (huncuts e he)
      · refine List.pairwise_cons.2 ⟨List.forall_mem_map.2 hclosed, List.pairwise_map.2 (hpairs.imp ?_)⟩
        exact (closed_blanks_append hspace).2
    -- Trimming takes the spaces away that were added behind the commas.
    have hstrips : (entries.map (' ' :: ·)).map Text.strip = entries := by
      rw [List.map_map]
      refine (List.map_congr_left fun e he => ?_).trans (List.map_id _)
      simpa using Text.strip_of_trimmed hspace Text.allBlank_nil (htrimmeds e he)
    rw [splitEntries_of_cutAt hcut, List.map_cons, Text.strip_eq_self htrimmed, hstrips]
    exact List.filter_eq_self.2 fun e he => by simpa using h.ne_nil e he

/-! ## §6 Together -/

/-- **Entries are cut out exactly and stably.** The entries of a content within a line are the pieces between its
commas in code at depth zero, trimmed and without the blank ones; each of them is its only entry when it is read
again; and all of them, joined by commas, have the same entries. -/
theorem splitEntries_exact_and_stable {content : Text} (hfeed : '\n' ∉ content) :
    (∃ pieces, Text.CutAt ',' (TopComma .code 0 content) content pieces ∧
      splitEntries content = (pieces.map Text.strip).filter fun entry => !entry.isEmpty) ∧
      (∀ entry ∈ splitEntries content, splitEntries entry = [entry]) ∧
      splitEntries (Text.join [',', ' '] (splitEntries content)) = splitEntries content := by
  have hcut := cutAt_marked content
  have hentries := resplits_splitEntries hfeed
  exact ⟨⟨_, hcut, splitEntries_of_cutAt hcut⟩,
    fun entry hentry => (hentries.singleton hentry).splitEntries_join, hentries.splitEntries_join⟩

/-- Entries with commas in strings and in braces, with a brace that nothing opens, and with a string that is left
open. -/
def unevenContent : Text := r"a = ',' , }, b = {1, 2} ,, 'c, d\'".toList

/-- The content is cut at four of its commas. -/
theorem entries_of_unevenContent : '\n' ∉ unevenContent ∧
    splitEntries unevenContent =
      ["a = ','".toList, r"}".toList, "b = {1, 2}".toList, "'c, d\\'".toList] ∧
    (∀ entry ∈ splitEntries unevenContent, splitEntries entry = [entry]) ∧
    splitEntries (Text.join [',', ' '] (splitEntries unevenContent)) = splitEntries unevenContent := by
  have hfeed : '\n' ∉ unevenContent := by decide
  exact ⟨hfeed, by decide, (splitEntries_exact_and_stable hfeed).2⟩

end LuaAccessors.TableLiteral
