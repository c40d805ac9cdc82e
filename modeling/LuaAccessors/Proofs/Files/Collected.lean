import Mathlib.Data.Char
import Mathlib.Data.List.Lex
import Mathlib.Data.List.Nodup
import LuaAccessors.Proofs.Files.Discovery
import LuaAccessors.Proofs.Text.Cut

/-!
# Scripts of a directory

Of a directory those files below it are taken whose names end in `.lua`, once each and in the order of their
components, but for what lies in the directories of tools. All of them are Lua scripts by their paths. The
converse fails: a path may end in `.LUA` too, but the search is for small letters.

- `Text.before_iff_lt`, `Path.partsBefore_iff_lt`: the order of components;
- `FileBelow`, `Taken`: the files below a directory, and those among them that are taken;
- `exists_parts_of_scriptsBelow`: what is found below a directory;
- `isLuaPath_of_suffix`, `suffix_text_below`: paths of Lua scripts, and that a path ends as its name does;
- `collectScripts_of_directory`: the scripts of a directory, and of several inputs;
- `not_every_lua_file_collected`: a Lua script that is left out.
-/

namespace LuaAccessors

open FileTree

/-! ## §1 The order of components -/

/-- Texts are in the order of their code points. -/
theorem Text.before_iff_lt (s t : Text) : before s t = true ↔ s < t := by
  fun_induction before s t with
  | case1 s => simp
  | case2 d t => simp
  | case3 c s d t ih =>
    have hcode : c.toNat < d.toNat ↔ c < d := by
      rw [Char.lt_def, UInt32.lt_iff_toNat_lt]
      rfl
    simp [hcode, ih, List.cons_lt_cons_iff]

/-- Paths are in the order of their first components that differ. -/
theorem Path.partsBefore_iff_lt (a b : List Text) : partsBefore a b = true ↔ a < b := by
  fun_induction partsBefore a b with
  | case1 a => simp
  | case2 t ts => simp
  | case3 s ss t ts ih => simp [Text.before_iff_lt, ih, List.cons_lt_cons_iff]

theorem pairwise_le_mergeSort (l : List (List Text)) :
    (l.mergeSort fun a b => !Path.partsBefore b a).Pairwise (· ≤ ·) := by
  have hle : ∀ a b : List Text, (!Path.partsBefore b a) = true ↔ a ≤ b := by
    intro a b
    rw [Bool.not_eq_true', ← not_lt, ← Path.partsBefore_iff_lt, Bool.not_eq_true]
  have hsorted : (l.mergeSort fun a b => !Path.partsBefore b a).Pairwise
      fun a b => (!Path.partsBefore b a) = true := by
    apply List.pairwise_mergeSort
    · exact fun a b c hab hbc => (hle a c).2 (((hle a b).1 hab).trans ((hle b c).1 hbc))
    · exact fun a b => by simpa only [Bool.or_eq_true, hle] using le_total a b
  exact hsorted.imp fun h => (hle _ _).1 h

/-! ## §2 Files below a directory

The list of scripts is sorted by components, and in a well-formed tree no two entries have the same. So the list
is determined by its members, and it is enough to say which paths are found.
-/

/-- A file that some components lead down to from a directory. -/
structure FileBelow (t : FileTree) (directory parts : List Text) : Prop where
  leadsDown : LeadsDown directory parts
  isFile : ∃ content, t.node? (directory ++ parts) = some (.file content)

/-- A file below a directory that is taken as a script of it. -/
structure Taken (t : FileTree) (directory parts : List Text) : Prop where
  fileBelow : FileBelow t directory parts
  /-- It lies in no directory of tools. -/
  notSkipped : ∀ part ∈ parts, part ∉ skippedNames
  /-- Its name ends in `.lua`, in small letters. -/
  suffix : ".lua".toList <:+ parts.getLastD []

/-- Without two entries of a name the tree has what its entries say. -/
theorem node?_of_mem {t : FileTree} (hkeys : (t.map Prod.fst).Nodup) {key : List Text} {node : Node}
    (htop : isTop key = false) (h : (key, node) ∈ t) : t.node? key = some node := by
  obtain ⟨before, after, rfl⟩ := List.append_of_mem h
  rw [node?, if_neg (by simp [htop]), List.lookup_eq_some_iff]
  refine ⟨before, after, rfl, fun e he => ?_⟩
  rw [List.map_append, List.map_cons] at hkeys
  -- What stands in front of the entry has other names, so it is the one that is found.
  have hne : key ≠ e.1 := by
    rintro rfl
    exact (List.nodup_append'.1 hkeys).2.2 (List.mem_map_of_mem he) List.mem_cons_self
  simpa using hne

theorem taken_iff {t : FileTree} (hkeys : (t.map Prod.fst).Nodup) {key parts : List Text} :
    Taken t key parts ↔ parts ∈ t.filterMap (scriptParts? key) := by
  simp only [List.mem_filterMap, scriptParts?_eq_some_iff, isScriptBelow, Bool.and_eq_true,
    Bool.not_eq_true', List.any_eq_false, List.contains_iff_mem, List.isSuffixOf_iff_suffix]
  constructor
  · rintro ⟨⟨hdown, content, hcontent⟩, hskip, hsuffix⟩
    -- A file is no place where paths start, so an entry stands for it.
    have hsome : t.node? (key ++ parts) ≠ none := by simp [hcontent]
    obtain ⟨node, hmem⟩ := exists_mem_of_node? hdown.isTop_eq_false hsome
    have hnode := node?_of_mem hkeys hdown.isTop_eq_false hmem
    obtain rfl := Option.some.inj (hnode.symm.trans hcontent)
    exact ⟨_, hmem, ⟨content, rfl⟩, hdown, hsuffix, hskip⟩
  · rintro ⟨e, he, ⟨content, rfl⟩, hdown, hsuffix, hskip⟩
    exact ⟨⟨hdown, content, node?_of_mem hkeys hdown.isTop_eq_false he⟩, hskip, hsuffix⟩

/-- No two entries lead to the same components. -/
theorem nodup_filterMap_scriptParts? {t : FileTree} (hkeys : (t.map Prod.fst).Nodup) (key : List Text) :
    (t.filterMap (scriptParts? key)).Nodup := by
  rw [List.Nodup, List.pairwise_filterMap]
  rw [List.Nodup, List.pairwise_map] at hkeys
  refine hkeys.imp fun {e e'} hne parts hparts parts' hparts' => ?_
  rintro rfl
  obtain ⟨⟨content, rfl⟩, -⟩ := scriptParts?_eq_some_iff.1 hparts
  obtain ⟨⟨content', rfl⟩, -⟩ := scriptParts?_eq_some_iff.1 hparts'
  exact hne rfl

/-- **What is found below a directory**: the files that are taken, each once and in order. -/
theorem exists_parts_of_scriptsBelow {t : FileTree} (hkeys : (t.map Prod.fst).Nodup) {root : Path}
    {key : List Text} (hroot : t.find? root = some (key, .directory)) :
    ∃ found : List (List Text), scriptsBelow t root = found.map root.below ∧ found.Pairwise (· < ·) ∧
      ∀ parts, parts ∈ found ↔ Taken t key parts := by
  unfold scriptsBelow
  rw [hroot]
  refine ⟨_, rfl, ?_, fun parts => ?_⟩
  · -- The order is strict because nothing is found twice.
    have hsorted := pairwise_le_mergeSort (t.filterMap (scriptParts? key))
    have hnodup := (List.mergeSort_perm _ fun a b => !Path.partsBefore b a).nodup_iff.2
      (nodup_filterMap_scriptParts? hkeys key)
    exact (hsorted.and hnodup).imp fun h => lt_of_le_of_ne h.1 h.2
  · rw [List.mem_mergeSort, taken_iff hkeys]

/-! ## §3 Lua scripts -/

/-- A text that ends in `.lua` is the path of a Lua script. -/
theorem isLuaPath_of_suffix {t : Text} (h : ".lua".toList <:+ t) : isLuaPath t = true := by
  obtain ⟨front, rfl⟩ := h
  -- The induction is on what stands in front; its letters may count for each other, but not for the suffix.
  have hafter : ∀ before, ".lua".toList <:+ lowerAfter before (front ++ ".lua".toList) := by
    induction front with
    | nil => exact fun before => List.suffix_refl _
    | cons c front ih =>
      intro before
      rw [List.cons_append, lowerAfter]
      exact (ih _).trans (List.suffix_append _ _)
  exact List.isSuffixOf_iff_suffix.2 (hafter [])

/-- A path ends as its name does. -/
theorem suffix_text_below (root : Path) {parts : List Text} (h : parts ≠ []) :
    parts.getLastD [] <:+ (root.below parts).text := by
  obtain ⟨front, name, rfl⟩ := (List.eq_nil_or_concat' parts).resolve_left h
  have hbody : name <:+ Text.join ['/'] (root.parts ++ (front ++ [name])) := by
    rw [← List.append_assoc]
    -- The name is the whole text, or a slash stands in front of it.
    by_cases hnil : root.parts ++ front = []
    · rw [hnil]
      exact List.suffix_refl name
    · rw [Text.join_append _ hnil (List.cons_ne_nil _ _)]
      exact (List.suffix_append _ _).trans (List.suffix_append _ _)
  rw [List.getLastD_concat, Path.text, Path.below]
  split
  · exact hbody.trans (List.suffix_cons _ _)
  · rw [if_neg (by simp)]
    exact hbody

/-- What is taken of a directory are Lua scripts. -/
theorem Taken.isLuaPath {t : FileTree} {key parts : List Text} (h : Taken t key parts) (root : Path) :
    isLuaPath (root.below parts).text = true := by
  have hne : parts ≠ [] := by
    obtain ⟨part, rest, rfl, -⟩ := h.fileBelow.leadsDown
    exact List.cons_ne_nil part rest
  exact isLuaPath_of_suffix (h.suffix.trans (suffix_text_below root hne))

/-! ## §4 Inputs

An input is a directory, which stands for the scripts below it, or a single script. The files of all inputs are
read in the order of the inputs, and the first one that cannot be read ends the reading.
-/

/-- The scripts of one input are those that are collected of it alone. -/
theorem collectScripts_singleton (t : FileTree) (p : Path) : collectScripts t [p] = collectInput t p := by
  rw [collectScripts, List.mapM_cons]
  cases collectInput t p <;> simp [bind, Except.bind, pure, Except.pure, Except.map]

/-- **The scripts of a directory**, in a tree without two entries of a name, are the files below it that are Lua
scripts by their paths and lie in no directory of tools, if the letters of the suffix are small: each once, and in
the order of their components. All of them can be collected, and the scripts of several inputs are those of the
single inputs one after the other. -/
theorem collectScripts_of_directory {t : FileTree} (ht : t.WellFormed) (hkeys : (t.map Prod.fst).Nodup) :
    (∀ root key, t.find? root = some (key, .directory) →
      ∃ (found : List (List Text)) (scripts : List Script), collectScripts t [root] = .ok scripts ∧
        List.Forall₂ (fun parts s => readScript t (root.below parts) = .ok s) found scripts ∧
        found.Pairwise (· < ·) ∧
        ∀ parts, parts ∈ found ↔
          FileBelow t key parts ∧ isLuaPath (root.below parts).text = true ∧
            (∀ part ∈ parts, part ∉ skippedNames) ∧ ".lua".toList <:+ parts.getLastD []) ∧
      ∀ inputs, collectScripts t inputs = (inputs.mapM fun p => collectScripts t [p]).map List.flatten := by
  constructor
  · intro root key hroot
    obtain ⟨found, hfound, hsorted, hmem⟩ := exists_parts_of_scriptsBelow hkeys hroot
    -- Whatever is found exists, so the input can be read as a whole.
    obtain ⟨scripts, hscripts⟩ : ∃ scripts, collectInput t root = .ok scripts := by
      cases hinput : collectInput t root with
      | ok scripts => exact ⟨scripts, rfl⟩
      | error e =>
        have hnone := (exists_error_collectInput_iff ht).1 ⟨e, hinput⟩
        simp [hroot] at hnone
    have hdirectory : t.isDirectory root = true := by simp [isDirectory, hroot]
    refine ⟨found, scripts, (collectScripts_singleton t root).trans hscripts, ?_, hsorted, fun parts => ?_⟩
    · rw [collectInput, if_pos hdirectory, hfound] at hscripts
      exact List.forall₂_map_left_iff.1 (mapM_eq_ok_iff.1 hscripts)
    · rw [hmem]
      constructor
      · intro h
        exact ⟨h.fileBelow, h.isLuaPath root, h.notSkipped, h.suffix⟩
      · rintro ⟨hfile, -, hskip, hsuffix⟩
        exact ⟨hfile, hskip, hsuffix⟩
  · intro inputs
    simp only [collectScripts_singleton]
    rfl

/-- A directory with a script of either spelling. -/
def spelledScripts : FileTree := [
  (["s".toList], .directory), (["s".toList, "A.LUA".toList], .file (.text "x = 1".toList)),
  (["s".toList, "b.lua".toList], .file (.text "y = 2".toList))]

theorem wellFormed_spelledScripts : spelledScripts.WellFormed where
  inDirectory := by decide
  named := by decide

theorem nodup_spelledScripts : (spelledScripts.map Prod.fst).Nodup := by decide

theorem find?_spelledScripts :
    spelledScripts.find? (Path.ofText "s".toList) = some (["s".toList], .directory) := by decide

/-- The one with small letters is taken, the other one is not. -/
theorem collectScripts_spelledScripts :
    spelledScripts.WellFormed ∧ (spelledScripts.map Prod.fst).Nodup ∧
      ∃ (found : List (List Text)) (scripts : List Script),
        collectScripts spelledScripts [Path.ofText "s".toList] = .ok scripts ∧
        List.Forall₂ (fun parts s => readScript spelledScripts ((Path.ofText "s".toList).below parts) = .ok s)
          found scripts ∧
        found.Pairwise (· < ·) ∧ ["b.lua".toList] ∈ found ∧ ["A.LUA".toList] ∉ found := by
  refine ⟨wellFormed_spelledScripts, nodup_spelledScripts, ?_⟩
  obtain ⟨found, scripts, hscripts, hread, hsorted, hmem⟩ :=
    (collectScripts_of_directory wellFormed_spelledScripts nodup_spelledScripts).1 _ _ find?_spelledScripts
  refine ⟨found, scripts, hscripts, hread, hsorted, ?_, ?_⟩
  · rw [hmem]
    exact ⟨⟨⟨_, [], rfl, by decide⟩, .text "y = 2".toList, by decide⟩, by decide, by decide, by decide⟩
  · rw [hmem]
    rintro ⟨-, -, -, hsuffix⟩
    exact absurd hsuffix (by decide)

/-- No more than the one with small letters is read. -/
theorem collectScripts_small :
    collectScripts spelledScripts [Path.ofText "s".toList] =
      .ok [{ path := "s/b.lua", text := .text "y = 2" }] := by
  have hparts : spelledScripts.filterMap (scriptParts? ["s".toList]) = [["b.lua".toList]] := by decide
  have hfound : scriptsBelow spelledScripts (Path.ofText "s".toList) =
      [(Path.ofText "s".toList).below ["b.lua".toList]] := by
    rw [scriptsBelow, find?_spelledScripts]
    dsimp only
    rw [hparts, List.mergeSort_singleton, List.map_singleton]
  rw [collectScripts_singleton, collectInput, if_pos (by decide), hfound]
  rfl

/-- **Not every Lua script is collected**: `A.LUA` is one by its path, and no script of its directory is read
from it. -/
theorem not_every_lua_file_collected :
    ¬∀ (t : FileTree) (root : Path) (key : List Text), t.WellFormed → (t.map Prod.fst).Nodup →
      t.find? root = some (key, .directory) → ∀ scripts, collectScripts t [root] = .ok scripts →
        ∀ parts, FileBelow t key parts → isLuaPath (root.below parts).text = true →
          (∀ part ∈ parts, part ∉ skippedNames) → ∃ s ∈ scripts, readScript t (root.below parts) = .ok s := by
  intro h
  obtain ⟨s, hs, hread⟩ := h _ _ _ wellFormed_spelledScripts nodup_spelledScripts find?_spelledScripts _
    collectScripts_small ["A.LUA".toList] ⟨⟨_, [], rfl, by decide⟩, .text "x = 1".toList, by decide⟩
    (by decide) (by decide)
  obtain rfl := List.mem_singleton.1 hs
  have hcapital : readScript spelledScripts ((Path.ofText "s".toList).below ["A.LUA".toList]) =
      .ok { path := "s/A.LUA", text := .text "x = 1" } := rfl
  rw [hcapital] at hread
  exact absurd (congrArg Script.path (Except.ok.inj hread)) (by decide)

end LuaAccessors
