import LuaAccessors.Lexis.LineBreak

/-!
# Cutting a source into lines

A source is a first line, and possibly a line end and a further source behind it. Everything about
the lines of a source is proved along this decomposition:

- `isLineBreak`, `Unbroken`: the characters that end lines, and texts without them;
- `LineEnd`: what may stand between two lines;
- `splitLines_of_unbroken`, `splitLines_append_lineEnd`: how `splitLines` follows the decomposition;
- `line_induction`: induction over the lines of a source;
- `splitLines_join`: lines that are joined by line feeds.
-/

namespace LuaAccessors.Lexis

/-! ## §1 Line ends -/

/-- A character that ends a line, alone or together with its neighbour. -/
def isLineBreak (c : Char) : Bool := c == '\n' || c == '\r'

/-- A text within one line. -/
def Unbroken (t : Text) : Prop := ∀ c ∈ t, isLineBreak c = false

/-- `LineEnd e rest`: the text `e` ends a line, where `rest` follows. -/
inductive LineEnd : Text → Text → Prop where
  | feed (rest : Text) : LineEnd ['\n'] rest
  | returnFeed (rest : Text) : LineEnd ['\r', '\n'] rest
  /-- A carriage return in front of a line feed ends no line without it. -/
  | lone {rest : Text} (h : rest.head? ≠ some '\n') : LineEnd ['\r'] rest

theorem unbroken_nil : Unbroken [] := fun _ h => absurd h (by simp)

theorem unbroken_cons {c : Char} {t : Text} :
    Unbroken (c :: t) ↔ isLineBreak c = false ∧ Unbroken t := by
  simp [Unbroken]

theorem unbroken_append {t u : Text} : Unbroken (t ++ u) ↔ Unbroken t ∧ Unbroken u := by
  simp [Unbroken, or_imp, forall_and]

theorem ne_of_isLineBreak_eq_false {c : Char} (h : isLineBreak c = false) :
    c ≠ '\n' ∧ c ≠ '\r' := by
  simpa [isLineBreak] using h

theorem Unbroken.not_mem_lineFeed {t : Text} (h : Unbroken t) : '\n' ∉ t := by
  intro hmem
  have hbreak := h _ hmem
  cases hbreak

/-- A line end starts with a line break. -/
theorem LineEnd.exists_cons {e rest : Text} (h : LineEnd e rest) :
    ∃ c e', e = c :: e' ∧ isLineBreak c = true := by
  cases h with
  | feed => exact ⟨'\n', [], rfl, rfl⟩
  | returnFeed => exact ⟨'\r', ['\n'], rfl, rfl⟩
  | lone => exact ⟨'\r', [], rfl, rfl⟩

/-! ## §2 Lines -/

theorem splitLines_cons_of_not_break {c : Char} {rest line : Text} {lines : List Text}
    (hc : isLineBreak c = false) (h : splitLines rest = line :: lines) :
    splitLines (c :: rest) = (c :: line) :: lines := by
  obtain ⟨hn, hr⟩ := ne_of_isLineBreak_eq_false hc
  rw [splitLines.eq_def]
  split
  · simp_all
  · simp_all
  · rename_i heq
    cases heq
    simp [hn, hr, h]

theorem splitLines_lineEnd {e rest : Text} (h : LineEnd e rest) :
    splitLines (e ++ rest) = [] :: splitLines rest := by
  cases h with
  | feed => simp [splitLines]
  | returnFeed => simp [splitLines]
  | lone hrest =>
    rw [List.cons_append, List.nil_append, splitLines.eq_def]
    split
    · simp_all
    · simp_all
    · rename_i heq
      cases heq
      simp

/-- A text without line breaks is one line. -/
theorem splitLines_of_unbroken {raw : Text} (h : Unbroken raw) : splitLines raw = [raw] := by
  induction raw with
  | nil => rfl
  | cons c rest ih =>
    obtain ⟨hc, hrest⟩ := unbroken_cons.1 h
    exact splitLines_cons_of_not_break hc (ih hrest)

/-- What stands before the first line end is the first line; the other lines are those of the
rest. -/
theorem splitLines_append_lineEnd {raw e rest : Text} (h : Unbroken raw) (he : LineEnd e rest) :
    splitLines (raw ++ e ++ rest) = raw :: splitLines rest := by
  induction raw with
  | nil => exact splitLines_lineEnd he
  | cons c raw ih =>
    obtain ⟨hc, hraw⟩ := unbroken_cons.1 h
    exact splitLines_cons_of_not_break hc (ih hraw)

/-- A source is one line, or a line, a line end and a further source. -/
theorem exists_first_line (source : Text) :
    Unbroken source ∨
      ∃ raw e rest, source = raw ++ e ++ rest ∧ Unbroken raw ∧ LineEnd e rest := by
  induction source with
  | nil => exact .inl unbroken_nil
  | cons c rest ih =>
    -- A line ends at its first line feed or carriage return, and a line feed right behind the latter belongs to
    -- it.
    by_cases hn : c = '\n'
    · subst hn
      exact .inr ⟨[], ['\n'], rest, rfl, unbroken_nil, .feed rest⟩
    by_cases hr : c = '\r'
    · subst hr
      by_cases hrest : rest.head? = some '\n'
      · obtain ⟨rest, rfl⟩ := List.head?_eq_some_iff.1 hrest
        exact .inr ⟨[], ['\r', '\n'], rest, rfl, unbroken_nil, .returnFeed rest⟩
      · exact .inr ⟨[], ['\r'], rest, rfl, unbroken_nil, .lone hrest⟩
    have hc : isLineBreak c = false := by simp [isLineBreak, hn, hr]
    rcases ih with h | ⟨raw, e, rest, rfl, hraw, he⟩
    · exact .inl (unbroken_cons.2 ⟨hc, h⟩)
    · exact .inr ⟨c :: raw, e, rest, rfl, unbroken_cons.2 ⟨hc, hraw⟩, he⟩

/-- Induction over the lines of a source. -/
@[elab_as_elim]
theorem line_induction {motive : Text → Prop}
    (last : ∀ raw, Unbroken raw → motive raw)
    (more : ∀ raw e rest, Unbroken raw → LineEnd e rest → motive rest → motive (raw ++ e ++ rest))
    (source : Text) : motive source := by
  -- On the length, since what is left behind a line end is shorter.
  induction h : source.length using Nat.strongRecOn generalizing source with
  | _ n ih =>
    rcases exists_first_line source with hs | ⟨raw, e, rest, rfl, hraw, he⟩
    · exact last source hs
    · refine more raw e rest hraw he (ih rest.length ?_ rest rfl)
      obtain ⟨c, e', rfl, -⟩ := he.exists_cons
      simp at h
      omega

/-- No line of a source has a line break in it. -/
theorem unbroken_of_mem_splitLines {source line : Text} (h : line ∈ splitLines source) :
    Unbroken line := by
  induction source using line_induction with
  | last raw hraw =>
    rw [splitLines_of_unbroken hraw] at h
    exact List.mem_singleton.1 h ▸ hraw
  | more raw e rest hraw he ih =>
    rw [splitLines_append_lineEnd hraw he] at h
    rcases List.mem_cons.1 h with rfl | h
    · exact hraw
    · exact ih h

/-- The lines of two sources with a line feed between them are the lines of both, if the first
source has no carriage return. -/
theorem splitLines_append_feed {a : Text} (b : Text) (h : '\r' ∉ a) :
    splitLines (a ++ '\n' :: b) = splitLines a ++ splitLines b := by
  induction a using line_induction with
  -- The last line of the first source is ended by the line feed in between.
  | last raw hraw =>
    have := splitLines_append_lineEnd hraw (.feed b)
    rw [List.append_assoc, List.singleton_append] at this
    rw [this, splitLines_of_unbroken hraw, List.singleton_append]
  | more raw e rest hraw he ih =>
    have hrest : '\r' ∉ rest := fun hm => h (by simp [hm])
    -- The other two line ends have a carriage return.
    cases he with
    | feed =>
      have hb : LineEnd ['\n'] (rest ++ '\n' :: b) := .feed _
      rw [splitLines_append_lineEnd hraw (.feed rest), List.cons_append, ← ih hrest,
        ← splitLines_append_lineEnd hraw hb]
      simp
    | returnFeed => simp at h
    | lone => simp at h

/-- Lines that a line feed is put between are found again. -/
theorem splitLines_join {lines : List Text} (hne : lines ≠ []) (h : ∀ l ∈ lines, Unbroken l) :
    splitLines (Text.join ['\n'] lines) = lines := by
  induction lines with
  | nil => exact absurd rfl hne
  | cons line rest ih =>
    have hline := h line List.mem_cons_self
    cases rest with
    | nil => exact splitLines_of_unbroken hline
    | cons next rest =>
      have hrest := ih (List.cons_ne_nil _ _) fun l hl => h l (List.mem_cons_of_mem _ hl)
      rw [Text.join, splitLines_append_lineEnd hline (.feed _), hrest]

end LuaAccessors.Lexis
