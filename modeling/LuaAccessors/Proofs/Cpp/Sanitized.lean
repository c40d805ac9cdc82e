import Mathlib.Data.List.Chain
import Mathlib.Data.List.DropRight
import LuaAccessors.Proofs.Cpp.Name
import LuaAccessors.Proofs.TableLiteral.Laid

/-!
# Names of private members in normal form

The name of a private member has a normal form: runs of ASCII letters and digits with one underscore between two
of them, and a further underscore only in front of a digit at the start. It can be made step by step as well, by
turning what no name may hold into underscores, squeezing these, and trimming; a name of ASCII letters, digits and
underscores loses nothing but underscores on the way.

- `runs_cons_of_pos`, `runs_concat`: how runs grow;
- `NormalForm`, `normalForm_join`, `join_segments`: texts that are their joined segments;
- `replaceForbidden`, `squeeze`, `guardDigit`, `sanitize_eq_steps`: the steps;
- `sanitize_shape`: names of private members are identifiers;
- `conversions_of_segments`: all of it together.
-/

namespace LuaAccessors.Cpp

open TableLiteral (Identifier isNamePart_of_mem_identifier)

/-! ## §1 How runs grow -/

/-- A character in front of a run joins it; in front of anything else it is a run. -/
theorem runs_cons_of_pos {p : Char → Bool} {c : Char} (hc : p c = true) (t : Text) :
    runs p (c :: t) =
      if t.head?.any p then (runs p t).modifyHead (c :: ·) else [c] :: runs p t := by
  cases t with
  | nil => simp [runs, Text.splitWhere, hc]
  | cons d t =>
    obtain ⟨piece, pieces, hsplit⟩ := List.exists_cons_of_ne_nil (Text.splitWhere_ne_nil (!p ·) t)
    cases hd : p d <;> simp [runs, Text.splitWhere, hc, hd, hsplit]

/-- What belongs to no run at the end does not count. -/
theorem runs_concat {p : Char → Bool} {d : Char} (hd : p d = false) (t : Text) :
    runs p (t ++ [d]) = runs p t := by
  induction t with
  | nil => exact runs_cons hd []
  | cons c t ih =>
    cases hc : p c with
    | false => rw [List.cons_append, runs_cons hc, runs_cons hc, ih]
    | true =>
      have hhead : (t ++ [d]).head?.any p = t.head?.any p := by
        cases t <;> simp [hd]
      rw [List.cons_append, runs_cons_of_pos hc, runs_cons_of_pos hc, hhead, ih]

/-! ## §2 Joined segments -/

/-- Underscores stand one by one, and only between other characters. -/
structure NormalForm (t : Text) : Prop where
  head : ∀ c ∈ t.head?, c ≠ '_'
  last : ∀ c ∈ t.getLast?, c ≠ '_'
  single : t.IsChain fun c d => ¬(c = '_' ∧ d = '_')

theorem NormalForm.of_not_mem {t : Text} (h : '_' ∉ t) : NormalForm t := by
  have hne : ∀ c ∈ t, c ≠ '_' := fun c hc heq => h (heq ▸ hc)
  refine ⟨fun c hc => hne c (List.mem_of_mem_head? hc), fun c hc => hne c (List.mem_of_getLast? hc), ?_⟩
  refine List.Pairwise.isChain (List.pairwise_of_forall_mem_list ?_)
  exact fun c hc _ _ hboth => hne c hc hboth.1

/-- An underscore may stand between two texts in normal form. -/
theorem NormalForm.append {t u : Text} (ht : NormalForm t) (hu : NormalForm u) (htne : t ≠ []) (hune : u ≠ []) :
    NormalForm (t ++ '_' :: u) := by
  constructor
  · rw [List.head?_append_of_ne_nil _ htne]
    exact ht.head
  · rw [List.getLast?_append_of_ne_nil _ (List.cons_ne_nil _ _), List.getLast?_cons_of_ne_nil hune]
    exact hu.last
  · refine List.isChain_append.2 ⟨ht.single, List.isChain_cons.2 ⟨?_, hu.single⟩, ?_⟩
    · exact fun d hd hboth => hu.head d hd hboth.2
    · exact fun c hc d _ hboth => ht.last c hc hboth.1

/-- Segments that are joined by underscores are in normal form. -/
theorem normalForm_join {pieces : List Text} (h : ∀ piece ∈ pieces, piece ≠ [] ∧ '_' ∉ piece) :
    NormalForm (Text.join ['_'] pieces) := by
  induction pieces with
  | nil => exact .of_not_mem (by simp [Text.join])
  | cons piece rest ih =>
    obtain ⟨hne, hnot⟩ := h piece List.mem_cons_self
    cases rest with
    | nil => exact .of_not_mem hnot
    | cons next rest =>
      have hrest := ih fun p hp => h p (List.mem_cons_of_mem _ hp)
      -- Each underscore stands between two pieces that are not empty.
      have hnext : Text.join ['_'] (next :: rest) ≠ [] := by
        obtain ⟨c, hc⟩ := List.exists_mem_of_ne_nil next (h next (by simp)).1
        exact List.ne_nil_of_mem (Text.mem_join ['_'] List.mem_cons_self hc)
      rw [Text.join_cons_cons]
      exact (NormalForm.of_not_mem hnot).append hrest hne hnext

/-- An empty piece would stand at an end of the text or between two underscores. -/
theorem NormalForm.ne_nil_of_mem_splitOn {t piece : Text} (h : NormalForm t) (ht : t ≠ [])
    (hpiece : piece ∈ Text.splitOn '_' t) : piece ≠ [] := by
  rintro rfl
  have hjoin := Text.join_splitOn '_' t
  obtain ⟨xs, ys, hsplit⟩ := List.append_of_mem hpiece
  rw [hsplit] at hjoin
  have hbehind : ys ≠ [] → Text.join ['_'] ([] :: ys) = '_' :: Text.join ['_'] ys := by
    intro hys
    obtain ⟨y, ys, rfl⟩ := List.exists_cons_of_ne_nil hys
    rfl
  -- Pieces stand on both sides of the empty one, or it is the first, or the last.
  by_cases hxs : xs = []
  · rw [hxs, List.nil_append] at hjoin
    by_cases hys : ys = []
    · rw [hys] at hjoin
      exact ht hjoin.symm
    · rw [hbehind hys] at hjoin
      exact h.head '_' (by rw [← hjoin]; rfl) rfl
  · rw [Text.join_append ['_'] hxs (List.cons_ne_nil [] ys)] at hjoin
    by_cases hys : ys = []
    · rw [hys] at hjoin
      exact h.last '_' (by rw [← hjoin]; simp [Text.join]) rfl
    · rw [hbehind hys] at hjoin
      have hdouble : ['_', '_'] <:+: t := ⟨Text.join ['_'] xs, Text.join ['_'] ys, by rw [← hjoin]; simp⟩
      have hchain := List.IsChain.infix h.single hdouble
      simp at hchain

/-- **Normal form.** A text in normal form is its segments, joined by underscores. -/
theorem join_segments {t : Text} (h : NormalForm t) : Text.join ['_'] (segments t) = t := by
  by_cases ht : t = []
  · rw [ht]
    rfl
  · have hsegments : segments t = (Text.splitOn '_' t).filter fun piece => !piece.isEmpty := by
      simp [segments, runs, Text.splitOn, bne]
    have hall : ∀ piece ∈ Text.splitOn '_' t, (!piece.isEmpty) = true := by
      intro piece hpiece
      simpa using h.ne_nil_of_mem_splitOn ht hpiece
    rw [hsegments, List.filter_eq_self.2 hall, Text.join_splitOn]

/-! ## §3 Step by step

The conversion of a name is made of three steps: what is not allowed becomes an underscore, runs of underscores
become one, and underscores at both ends go. The same text comes from joining the segments of the name.
-/

/-- The name with underscores for all characters that are no ASCII letters, digits or underscores. -/
def replaceForbidden (name : Text) : Text := name.map fun c => if isNamePart c then c else '_'

/-- The text with one underscore for every run of underscores. -/
def squeeze : Text → Text
  | [] => []
  | '_' :: '_' :: rest => squeeze ('_' :: rest)
  | c :: rest => c :: squeeze rest

/-- The text with an underscore in front, if it starts with a digit. -/
def guardDigit (t : Text) : Text := if t.head?.any Char.isDigit then '_' :: t else t

theorem segments_cons_underscore (t : Text) : segments ('_' :: t) = segments t := runs_cons (by simp) t

/-- Replacing what is forbidden cuts a name into its runs of letters and digits. -/
theorem segments_replaceForbidden (name : Text) :
    segments (replaceForbidden name) = runs isAsciiAlphanumeric name := by
  induction name with
  | nil => rfl
  | cons c name ih =>
    cases hc : isAsciiAlphanumeric c with
    | false =>
      have hreplaced : replaceForbidden (c :: name) = '_' :: replaceForbidden name := by
        by_cases h : c = '_'
        · simp [replaceForbidden, h]
        · simp [replaceForbidden, isNamePart, show c.isAlphanum = false from hc, h]
      rw [hreplaced, segments_cons_underscore, ih, runs_cons hc]
    | true =>
      have hkept : replaceForbidden (c :: name) = c :: replaceForbidden name := by
        simp [replaceForbidden, isNamePart, show c.isAlphanum = true from hc]
      -- Whether the run goes on is the same question before and after.
      have hhead : (replaceForbidden name).head?.any (· != '_') = name.head?.any isAsciiAlphanumeric := by
        cases name with
        | nil => rfl
        | cons d name =>
          by_cases h : d = '_'
          · simp [replaceForbidden, h, isAsciiAlphanumeric]
          · cases hd : d.isAlphanum <;> simp [replaceForbidden, isNamePart, isAsciiAlphanumeric, hd, h]
      rw [hkept, segments, runs_cons_of_pos (by simpa using ne_underscore_of_isAsciiAlphanumeric hc), hhead,
        runs_cons_of_pos hc, ← segments, ih]

theorem head?_squeeze (t : Text) : (squeeze t).head? = t.head? := by
  fun_induction squeeze t <;> simp_all

theorem segments_squeeze (t : Text) : segments (squeeze t) = segments t := by
  fun_induction squeeze t with
  | case1 => rfl
  | case2 rest ih => rw [ih, segments_cons_underscore ('_' :: rest)]
  | case3 c rest _ ih =>
    by_cases hc : c = '_'
    · rw [hc, segments_cons_underscore, segments_cons_underscore, ih]
    · have hpos : (c != '_') = true := by simpa using hc
      rw [segments, runs_cons_of_pos (p := (· != '_')) hpos, segments,
        runs_cons_of_pos (p := (· != '_')) hpos, head?_squeeze, ← segments, ← segments, ih]

theorem isChain_squeeze (t : Text) : (squeeze t).IsChain fun c d => ¬(c = '_' ∧ d = '_') := by
  fun_induction squeeze t with
  | case1 => exact .nil
  | case2 rest ih => exact ih
  | case3 c rest hne ih =>
    refine List.isChain_cons.2 ⟨?_, ih⟩
    rw [head?_squeeze]
    rintro d hd ⟨rfl, rfl⟩
    obtain ⟨more, rfl⟩ := List.head?_eq_some_iff.1 (Option.mem_def.1 hd)
    exact hne more rfl rfl

/-- Underscores at the ends begin and end no segment. -/
theorem segments_trimBoth (t : Text) : segments (t.trimBoth '_') = segments t := by
  have hend : ∀ u : Text, segments (u.rdropWhile (· == '_')) = segments u := by
    intro u
    -- The end is trimmed from the back, one character after the other.
    induction u using List.reverseRecOn with
    | nil => rfl
    | append_singleton u d ih =>
      rw [List.rdropWhile_concat]
      split
      · rename_i hd
        rw [ih, segments, segments, runs_concat (by simpa using hd)]
      · rfl
  have hstart : segments (t.dropWhile (· == '_')) = segments t := by
    induction t with
    | nil => rfl
    | cons c t ih =>
      rw [List.dropWhile_cons]
      split
      · rename_i hc
        rw [ih, beq_iff_eq.1 hc, segments_cons_underscore]
      · rfl
  exact (hend _).trans hstart

/-- What has been squeezed and trimmed is in normal form. -/
theorem normalForm_trimBoth_squeeze (t : Text) : NormalForm ((squeeze t).trimBoth '_') := by
  have hstart : (squeeze t).trimBoth '_' <+: (squeeze t).dropWhile (· == '_') := List.rdropWhile_prefix _ _
  constructor
  · intro c hc
    obtain ⟨others, hothers⟩ := List.head?_eq_some_iff.1 (Option.mem_def.1 hc)
    obtain ⟨more, hmore⟩ := hstart
    have hfirst := List.head?_dropWhile_not (· == '_') (squeeze t)
    rw [← hmore, hothers] at hfirst
    simpa using hfirst
  · intro c hc
    obtain ⟨hne, rfl⟩ := List.mem_getLast?_eq_getLast hc
    have hlast := List.rdropWhile_last_not (· == '_') ((squeeze t).dropWhile (· == '_')) hne
    exact fun heq => hlast (beq_iff_eq.2 heq)
  · -- Trimming cuts a part out of the text, and in no part of it two underscores follow each other.
    have hwithin : (squeeze t).trimBoth '_' <:+: squeeze t :=
      List.IsInfix.trans (List.IsPrefix.isInfix hstart) (List.IsSuffix.isInfix (List.dropWhile_suffix _))
    exact List.IsChain.infix (isChain_squeeze t) hwithin

/-- **The name of a private member, step by step.** -/
theorem sanitize_eq_steps (name : Text) :
    sanitize name = guardDigit ((squeeze (replaceForbidden name)).trimBoth '_') := by
  have hjoined := join_segments (normalForm_trimBoth_squeeze (replaceForbidden name))
  rw [segments_trimBoth, segments_squeeze, segments_replaceForbidden] at hjoined
  rw [← hjoined]
  rfl

/-! ## §4 Names of private members -/

/-- Runs of letters and digits, joined by underscores. -/
theorem normalForm_join_runs (name : Text) : NormalForm (Text.join ['_'] (runs isAsciiAlphanumeric name)) := by
  apply normalForm_join
  intro run hrun
  obtain ⟨hne, hall⟩ := of_mem_runs hrun
  exact ⟨hne, fun h => ne_underscore_of_isAsciiAlphanumeric (hall '_' h).2 rfl⟩

/-- A name depends on its runs of letters and digits, and keeps them. -/
theorem sanitize_sanitize (name : Text) : sanitize (sanitize name) = sanitize name := by
  have hruns : runs isAsciiAlphanumeric (sanitize name) = runs isAsciiAlphanumeric name := by
    rw [← segments_eq_runs fun c hc => isNamePart_of_mem_sanitize hc, segments_sanitize]
  rw [sanitize, hruns, sanitize]

/-- **Shape of a name.** It is empty, or an identifier in which underscores stand one by one and never at the
end. -/
theorem sanitize_shape (name : Text) :
    sanitize name = [] ∨
      ∃ i : Identifier, sanitize name = i.text ∧ (i.text.IsChain fun c d => ¬(c = '_' ∧ d = '_')) ∧
        i.text.getLast? ≠ some '_' := by
  have hform := normalForm_join_runs name
  have hparts : ∀ c ∈ sanitize name, isNamePart c = true := fun c hc => isNamePart_of_mem_sanitize hc
  have hguard : sanitize name = guardDigit (Text.join ['_'] (runs isAsciiAlphanumeric name)) := rfl
  -- Only the guard remains: what is joined is in normal form, whatever it is made of.
  generalize Text.join ['_'] (runs isAsciiAlphanumeric name) = joined at hform hguard
  cases joined with
  | nil => exact .inl hguard
  | cons c rest =>
    right
    have hc : c ≠ '_' := hform.head c rfl
    have hlast : (c :: rest).getLast? ≠ some '_' := fun h => hform.last '_' h rfl
    cases hdigit : c.isDigit with
    | true =>
      have hname : sanitize name = '_' :: c :: rest := by simp [hguard, guardDigit, hdigit]
      rw [hname] at hparts ⊢
      refine ⟨⟨'_', c :: rest, rfl, fun d hd => hparts d (List.mem_cons_of_mem _ hd)⟩, rfl, ?_, ?_⟩
      · exact List.isChain_cons.2 ⟨fun d hd hboth => hform.head d hd hboth.2, hform.single⟩
      · simpa [Identifier.text] using hlast
    | false =>
      have hname : sanitize name = c :: rest := by simp [hguard, guardDigit, hdigit]
      rw [hname] at hparts ⊢
      have hstart : isNameStart c = true := by
        have hpart := hparts c List.mem_cons_self
        simpa [isNamePart, isNameStart, Char.isAlphanum, hdigit, hc] using hpart
      exact ⟨⟨c, rest, hstart, fun d hd => hparts d (List.mem_cons_of_mem _ hd)⟩, rfl, hform.single, hlast⟩

/-- For identifiers the name depends on the segments only. -/
theorem sanitize_eq_of_segments_eq {a b : Identifier} (h : segments a.text = segments b.text) :
    sanitize a.text = sanitize b.text := by
  have hruns : ∀ i : Identifier, runs isAsciiAlphanumeric i.text = segments i.text := fun i =>
    (segments_eq_runs fun _ hc => isNamePart_of_mem_identifier hc).symm
  rw [sanitize, hruns, h, ← hruns, sanitize]

/-- **Both conversions see the same segments.** For identifiers they depend on the segments only, and the name of a
private member keeps all of them, so it tells apart what capitals tell apart. Whatever it is made of, making it
twice changes nothing, and it is an identifier without doubled and trailing underscores, or nothing at all. -/
theorem conversions_of_segments :
    (∀ a b : Identifier, segments a.text = segments b.text →
      sanitize a.text = sanitize b.text ∧ pascalCase a.text = pascalCase b.text) ∧
    (∀ a : Identifier, segments (sanitize a.text) = segments a.text) ∧
    (∀ a b : Identifier, sanitize a.text = sanitize b.text → pascalCase a.text = pascalCase b.text) ∧
    ∀ name : Text,
      sanitize name = guardDigit ((squeeze (replaceForbidden name)).trimBoth '_') ∧
      sanitize (sanitize name) = sanitize name ∧
      (sanitize name = [] ∨
        ∃ i : Identifier, sanitize name = i.text ∧ (i.text.IsChain fun c d => ¬(c = '_' ∧ d = '_')) ∧
          i.text.getLast? ≠ some '_') := by
  have hparts : ∀ i : Identifier, ∀ c ∈ i.text, isNamePart c = true := fun _ _ hc =>
    isNamePart_of_mem_identifier hc
  refine ⟨fun a b h => ⟨sanitize_eq_of_segments_eq h, ?_⟩, fun a => ?_, fun a b h => ?_, fun name => ?_⟩
  · rw [pascalCase, h, pascalCase]
  · rw [segments_sanitize, segments_eq_runs (hparts a)]
  · exact pascalCase_eq_of_sanitize_eq (hparts a) (hparts b) h
  · exact ⟨sanitize_eq_steps name, sanitize_sanitize name, sanitize_shape name⟩

/-- The same two segments with other underscores around them. -/
theorem conversions_of_playerName :
    ∃ a b : Identifier, a.text = "_player__name".toList ∧ b.text = "player_name_".toList ∧
      segments a.text = segments b.text ∧ sanitize a.text = sanitize b.text ∧
      pascalCase a.text = pascalCase b.text := by
  let a : Identifier := ⟨'_', "player__name".toList, rfl, List.all_eq_true.1 rfl⟩
  let b : Identifier := ⟨'p', "layer_name_".toList, rfl, List.all_eq_true.1 rfl⟩
  have hsegments : segments a.text = segments b.text := by decide
  have hsanitize : sanitize a.text = sanitize b.text := (conversions_of_segments.1 a b hsegments).1
  exact ⟨a, b, rfl, rfl, hsegments, hsanitize, conversions_of_segments.2.2.1 a b hsanitize⟩

end LuaAccessors.Cpp
