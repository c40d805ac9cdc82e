import Mathlib.Data.List.Infix
import LuaAccessors.Proofs.Text.Cut
import LuaAccessors.Proofs.Text.LetterCase
import LuaAccessors.Script

/-!
# Paths that hold a directory

A directory is looked for in the text of a path. What is found starts and ends anywhere: the components in
the middle of the directory are components of the path, but the first one may be only the end of a component
and the last one only the start of one, and the name of the file counts as well. So a path that lies under the
directory holds it, and not every path that holds it lies under it.

- `foldedParts`, `join_foldedParts`: the components of a path in lower case;
- `LiesUnder`: the directory is a run of whole components above the file;
- `Touches`, `infix_join_iff`: where joined components occur in joined components;
- `isInDirectory_iff_touches`: which paths hold a directory.
-/

namespace LuaAccessors

/-! ## §1 Components -/

/-- The components of a path with slashes, in lower case. -/
def foldedParts (t : Text) : List Text := (Text.splitOn '/' t).map lower

/-- A directory with slashes, without those at its ends. -/
def directoryText (directory : Text) : Text := (normalizePath directory).trimBoth '/'

/-- The directory is a run of whole components above the file, in any letter case; without components it is
above every file. -/
def LiesUnder (path directory : Text) : Prop :=
  directoryText directory = [] ∨
    foldedParts (directoryText directory) <:+: (foldedParts (normalizePath path)).dropLast

theorem foldedParts_ne_nil (t : Text) : foldedParts t ≠ [] := by
  simpa [foldedParts, Text.splitOn] using Text.splitWhere_ne_nil (· == '/') t

theorem slash_not_mem_of_mem_foldedParts {t part : Text} (h : part ∈ foldedParts t) : '/' ∉ part := by
  obtain ⟨piece, hpiece, rfl⟩ := List.mem_map.1 h
  exact fun hslash => Text.not_mem_of_mem_splitOn hpiece (mem_of_mem_lower (by decide) hslash)

/-- A slash separates words, so the components of a path have their forms in lower case one by one. -/
theorem lower_join (pieces : List Text) :
    lower (Text.join ['/'] pieces) = Text.join ['/'] (pieces.map lower) := by
  induction pieces with
  | nil => rfl
  | cons piece rest ih =>
    cases rest with
    | nil => rfl
    | cons next rest =>
      rw [Text.join_cons_cons, List.singleton_append, lower_append_cons (by decide) (by decide), ih]
      simp only [List.map_cons, Text.join_cons_cons]
      rfl

theorem join_foldedParts (t : Text) : Text.join ['/'] (foldedParts t) = lower t := by
  rw [foldedParts, ← lower_join, Text.join_splitOn]

/-! ## §2 Runs of components

A text may be found across a slash, but not inside of one: the first and the last component of the run may be
longer than what is looked for, and those in between are equal.
-/

/-- How components stand in a run of components of a path: a single one anywhere in one; of several, the first
at the end of one, the last at the start of one, and those in the middle as they are. -/
inductive Touches : List Text → List Text → Prop where
  | single {d w : Text} (h : d <:+: w) : Touches [d] [w]
  | several {d e v w : Text} {middle : List Text} (hfirst : d <:+ v) (hlast : e <+: w) :
      Touches (d :: (middle ++ [e])) (v :: (middle ++ [w]))

/-- Whole components touch themselves. -/
theorem touches_self {ds : List Text} (h : ds ≠ []) : Touches ds ds := by
  obtain ⟨d, rest, rfl⟩ := List.exists_cons_of_ne_nil h
  rcases List.eq_nil_or_concat' rest with rfl | ⟨middle, e, rfl⟩
  · exact .single (List.infix_refl d)
  · exact .several (List.suffix_refl d) (List.prefix_refl e)

/-- **Joined components occur in a joined path** exactly if they touch a run of its components. -/
theorem infix_join_iff {c : Char} {ds ps : List Text} (hds : ds ≠ []) (hps : ps ≠ [])
    (hd : ∀ d ∈ ds, c ∉ d) (hp : ∀ p ∈ ps, c ∉ p) :
    Text.join [c] ds <:+: Text.join [c] ps ↔ ∃ run, run <:+: ps ∧ Touches ds run := by
  obtain ⟨d, rest, rfl⟩ := List.exists_cons_of_ne_nil hds
  constructor
  · rintro ⟨u, v, h⟩
    -- What stands in front of the occurrence and behind it is cut as well.
    obtain ⟨before, front, hu, -⟩ := Text.exists_splitOn_append (c := c) u (u := []) (by simp)
    obtain ⟨back, after, hv⟩ := List.exists_cons_of_ne_nil (Text.splitWhere_ne_nil (· == c) v)
    have hbefore : ∀ t ∈ before ++ [front], c ∉ t := hu ▸ fun _ => Text.not_mem_of_mem_splitOn
    have hafter : ∀ t ∈ back :: after, c ∉ t := hv ▸ fun _ => Text.not_mem_of_mem_splitOn (t := v)
    have hpieces : ∀ pieces, Text.join [c] pieces = Text.join [c] ps → pieces ≠ [] →
        (∀ t ∈ pieces, c ∉ t) → pieces = ps := by
      intro pieces hjoin hne hall
      rw [← Text.splitOn_join hne hall, hjoin, Text.splitOn_join hps hp]
    rw [← Text.join_splitOn c u, hu, Text.join_append_join, ← Text.join_splitOn c v, Text.splitOn, hv] at h
    rcases List.eq_nil_or_concat' rest with rfl | ⟨middle, e, rfl⟩
    · rw [Text.join_append_join] at h
      obtain rfl := hpieces _ h (by simp) (by grind)
      exact ⟨[front ++ d ++ back], ⟨before, after, by simp⟩, .single ⟨front, back, rfl⟩⟩
    · rw [← List.cons_append, ← List.append_assoc, Text.join_append_join] at h
      obtain rfl := hpieces _ h (by simp) (by grind)
      refine ⟨(front ++ d) :: (middle ++ [e ++ back]), ⟨before, after, by simp⟩, ?_⟩
      exact .several (List.suffix_append front d) (List.prefix_append e back)
  · rintro ⟨run, ⟨before, after, rfl⟩, htouches⟩
    cases htouches with
    | single h =>
      obtain ⟨front, back, rfl⟩ := h
      have hjoin := Text.join_append_join [c] before after front (d ++ back)
      rw [← List.nil_append ((d ++ back) :: after), ← Text.join_append_join] at hjoin
      refine ⟨Text.join [c] (before ++ [front]), Text.join [c] (back :: after), ?_⟩
      simpa using hjoin
    | @several _ e _ _ middle hfirst hlast =>
      obtain ⟨front, rfl⟩ := hfirst
      obtain ⟨back, rfl⟩ := hlast
      have hjoin := Text.join_append_join [c] before (middle ++ (e ++ back) :: after) front d
      rw [← List.cons_append, ← Text.join_append_join] at hjoin
      refine ⟨Text.join [c] (before ++ [front]), Text.join [c] (back :: after), ?_⟩
      simpa using hjoin

/-! ## §3 Directories -/

/-- **Which paths hold a directory**: those that have a run of components, the name of the file included, which
the directory touches. All paths that lie under the directory are among them. -/
theorem isInDirectory_iff_touches (path directory : Text) :
    (isInDirectory path directory = true ↔
      directoryText directory = [] ∨
        ∃ run, run <:+: foldedParts (normalizePath path) ∧
          Touches (foldedParts (directoryText directory)) run) ∧
    (LiesUnder path directory → isInDirectory path directory = true) := by
  -- The search is for one text in another. Both are components with slashes in between, so a place where the text
  -- is found is a run of components.
  have hholds : isInDirectory path directory = true ↔
      directoryText directory = [] ∨
        ∃ run, run <:+: foldedParts (normalizePath path) ∧
          Touches (foldedParts (directoryText directory)) run := by
    rw [← infix_join_iff (foldedParts_ne_nil _) (foldedParts_ne_nil _)
      (fun _ => slash_not_mem_of_mem_foldedParts) (fun _ => slash_not_mem_of_mem_foldedParts),
      join_foldedParts, join_foldedParts, ← Text.isInfix_iff]
    simp [isInDirectory, directoryText]
  refine ⟨hholds, ?_⟩
  rintro (hempty | hrun)
  · exact hholds.2 (.inl hempty)
  · -- All components but the name of the file are components of the whole path.
    have hwhole := hrun.trans (List.dropLast_prefix _).isInfix
    exact hholds.2 (.inr ⟨_, hwhole, touches_self (foldedParts_ne_nil _)⟩)

/-- Letter case and the kind of slashes do not count. -/
theorem isInDirectory_game :
    LiesUnder "Project\\CONTENT\\Scripts\\game.lua".toList "/content/scripts/".toList ∧
      isInDirectory "Project\\CONTENT\\Scripts\\game.lua".toList "/content/scripts/".toList = true := by
  have hunder : LiesUnder "Project\\CONTENT\\Scripts\\game.lua".toList "/content/scripts/".toList := by
    unfold LiesUnder
    decide
  exact ⟨hunder, (isInDirectory_iff_touches _ _).2 hunder⟩

/-- The end of a component is enough. -/
theorem not_liesUnder_of_isInDirectory :
    ¬∀ path directory, isInDirectory path directory = true ↔ LiesUnder path directory := by
  intro h
  have hunder := (h "typescripts/game.lua".toList "scripts".toList).1 (by decide)
  revert hunder
  unfold LiesUnder
  decide

end LuaAccessors
