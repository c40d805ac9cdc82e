import Mathlib.Data.List.Forall2
import Mathlib.Data.List.Infix
import LuaAccessors.Files.Discovery
import LuaAccessors.Proofs.Files.Directories

/-!
# Inputs that exist

What is found below a directory exists, so only an input itself can be missing. This needs a tree as there
are in a file system: its entries stand in directories, and none is called like the directory above.

- `LeadsDown`, `walk_down`, `WellFormed.find?_below`: the way from a directory to an entry below it;
- `scriptParts?_eq_some_iff`, `find?_ne_none_of_mem_scriptsBelow`: what is found below a directory;
- `exists_error_mapM_iff`, `mapM_eq_ok_iff`: steps of which one fails, and steps that all succeed;
- `exists_error_collectScripts_iff`: when the scripts of all inputs cannot be collected.
-/

namespace LuaAccessors

namespace FileTree

/-! ## §1 Ways down -/

/-- **The way down** to what is in the tree goes through directories. -/
theorem walk_down {t : FileTree} (ht : WellFormed t) {key parts : List Text}
    (h : node? t (key ++ parts) ≠ none) (hparts : "..".toList ∉ parts) :
    walk t key parts = .ok (key ++ parts) := by
  -- The last component is taken off: it stands in a directory, and the way leads to that.
  induction parts using List.reverseRecOn with
  | nil => simp [walk]
  | append_singleton parts name ih =>
    have hdirectory : node? t (key ++ parts) = some .directory := by
      simpa [← List.append_assoc] using ht.node?_dropLast h
    have hway := ih (by simp [hdirectory]) fun hmem => hparts (List.mem_append_left _ hmem)
    have hname : name ≠ "..".toList := by
      rintro rfl
      exact hparts (by simp)
    rw [walk_concat, hway]
    simp only [hdirectory, next, if_neg hname, List.append_assoc]

/-- Components that lead down from a directory, neither to where paths start nor above that place. -/
def LeadsDown (directory parts : List Text) : Prop :=
  ∃ part rest, parts = part :: rest ∧ isTop (directory ++ [part]) = false

theorem LeadsDown.isTop_eq_false {directory parts : List Text} (h : LeadsDown directory parts) :
    isTop (directory ++ parts) = false := by
  obtain ⟨part, rest, rfl, htop⟩ := h
  rw [Bool.eq_false_iff] at htop ⊢
  intro hall
  apply htop
  apply isTop_of_append (b := rest)
  simpa using hall

/-- Below a directory nothing is called like the directory above. -/
theorem WellFormed.not_mem_below {t : FileTree} (ht : WellFormed t) {key parts : List Text}
    (hdown : LeadsDown key parts) (h : node? t (key ++ parts) ≠ none) : "..".toList ∉ parts := by
  obtain ⟨part, rest, rfl, htop⟩ := hdown
  induction rest using List.reverseRecOn with
  | nil =>
    obtain ⟨node, hmem⟩ := exists_mem_of_node? htop h
    have hname := ht.named _ hmem
    simpa [eq_comm] using hname
  | append_singleton rest name ih =>
    -- The entry is called `name`, and the rest leads to the directory that it stands in.
    have hkey : key ++ part :: (rest ++ [name]) = key ++ part :: rest ++ [name] := by simp
    have hwhole : LeadsDown key (part :: (rest ++ [name])) := ⟨part, _, rfl, htop⟩
    obtain ⟨node, hmem⟩ := exists_mem_of_node? hwhole.isTop_eq_false h
    rw [hkey] at hmem
    have hname : "..".toList ≠ name := by
      rintro rfl
      exact ht.named _ hmem List.getLast?_concat
    have hrest : node? t (key ++ part :: rest) = some .directory := by
      have hdirectory := ht.inDirectory _ hmem
      rwa [List.dropLast_concat] at hdirectory
    rw [← List.cons_append]
    simp only [List.mem_append, List.mem_singleton, not_or]
    exact ⟨ih (by simp [hrest]), hname⟩

/-- What is below a directory is found there by its path. -/
theorem WellFormed.find?_below {t : FileTree} (ht : WellFormed t) {root : Path} {key parts : List Text}
    {node : Node} (hroot : t.locate root = .ok key) (hdown : LeadsDown key parts)
    (h : node? t (key ++ parts) = some node) : t.find? (root.below parts) = some (key ++ parts, node) := by
  have hsome : node? t (key ++ parts) ≠ none := by simp [h]
  have hway := walk_down ht hsome (ht.not_mem_below hdown hsome)
  exact find?_eq_some_iff.2 ⟨(walk_append hroot parts).trans hway, h⟩

end FileTree

open FileTree

/-! ## §2 Scripts -/

theorem partsBelow?_eq_some_iff {directory entry parts : List Text} :
    partsBelow? directory entry = some parts ↔ entry = directory ++ parts ∧ LeadsDown directory parts := by
  constructor
  · intro h
    unfold partsBelow? at h
    -- What is below a directory has at least one component more, and that one leads down.
    split at h
    · rename_i part rest hprefix
      split at h
      · cases h
      · rename_i htop
        obtain rfl := Option.some.inj h
        refine ⟨?_, part, rest, rfl, Bool.eq_false_iff.2 htop⟩
        exact (List.append_eq_of_isPrefixOf?_eq_some hprefix).symm
    · cases h
  · rintro ⟨rfl, part, rest, rfl, htop⟩
    rw [partsBelow?, List.isPrefixOf?_eq_some_iff_append_eq.2 rfl]
    simp [htop]

theorem scriptParts?_eq_some_iff {directory parts : List Text} {e : List Text × Node} :
    scriptParts? directory e = some parts ↔
      (∃ content, e = (directory ++ parts, .file content)) ∧ LeadsDown directory parts ∧
        isScriptBelow parts = true := by
  obtain ⟨entry, node⟩ := e
  unfold scriptParts?
  dsimp only
  split
  · -- A file below the directory, which may be a script.
    rename_i content found hfound
    obtain ⟨rfl, hdown⟩ := partsBelow?_eq_some_iff.1 hfound
    constructor
    · intro h
      split at h
      · rename_i hscript
        obtain rfl := Option.some.inj h
        exact ⟨⟨content, rfl⟩, hdown, hscript⟩
      · cases h
    · rintro ⟨⟨content', heq⟩, -, hscript⟩
      obtain rfl := List.append_cancel_left (Prod.mk.inj heq).1
      rw [if_pos hscript]
  · -- A directory, or a file elsewhere.
    rename_i hother
    simp only [reduceCtorEq, false_iff]
    rintro ⟨⟨content, heq⟩, hdown, -⟩
    obtain ⟨rfl, rfl⟩ := Prod.mk.inj heq
    exact hother content parts rfl (partsBelow?_eq_some_iff.2 ⟨rfl, hdown⟩)

/-- **What is found below a directory** exists. -/
theorem find?_ne_none_of_mem_scriptsBelow {t : FileTree} (ht : t.WellFormed) {root p : Path}
    (h : p ∈ scriptsBelow t root) : t.find? p ≠ none := by
  unfold scriptsBelow at h
  split at h
  · rename_i key hroot
    obtain ⟨parts, hparts, rfl⟩ := List.mem_map.1 h
    obtain ⟨e, he, hselect⟩ := List.mem_filterMap.1 (List.mem_mergeSort.1 hparts)
    obtain ⟨⟨content, rfl⟩, hdown, -⟩ := scriptParts?_eq_some_iff.1 hselect
    obtain ⟨node, hnode⟩ := Option.ne_none_iff_exists'.1 (node?_ne_none_of_mem he)
    rw [ht.find?_below (find?_eq_some_iff.1 hroot).1 hdown hnode]
    simp
  · cases h

/-- A step fails if it fails for one of the elements. -/
theorem exists_error_mapM_iff {α β ε : Type} {f : α → Except ε β} {l : List α} :
    (∃ e, l.mapM f = .error e) ↔ ∃ a ∈ l, ∃ e, f a = .error e := by
  induction l with
  | nil => simp [pure, Except.pure]
  | cons a rest ih =>
    rw [List.mapM_cons]
    cases hf : f a with
    | error e => simp [bind, Except.bind, hf]
    | ok b =>
      simp only [List.mem_cons, exists_eq_or_imp, hf, reduceCtorEq, exists_false, false_or, ← ih]
      cases hrest : rest.mapM f <;> simp [bind, Except.bind, pure, Except.pure]

/-- Steps succeed if each of them does, and what comes of them is what comes of each. -/
theorem mapM_eq_ok_iff {α β ε : Type} {f : α → Except ε β} {l : List α} {results : List β} :
    l.mapM f = .ok results ↔ List.Forall₂ (fun a b => f a = .ok b) l results := by
  induction l generalizing results with
  | nil => simp [pure, Except.pure, eq_comm]
  | cons a rest ih =>
    rw [List.mapM_cons, List.forall₂_cons_left_iff]
    simp only [← ih]
    cases hf : f a with
    | error e => simp [bind, Except.bind]
    | ok b => cases hrest : rest.mapM f <;> simp [bind, Except.bind, pure, Except.pure, eq_comm]

theorem exists_error_readScript_iff {t : FileTree} {p : Path} :
    (∃ e, readScript t p = .error e) ↔ t.find? p = none := by
  unfold readScript
  split
  · rename_i hnone
    simp [hnone]
  · rename_i hsome
    split <;> simp [hsome]

theorem exists_error_collectInput_iff {t : FileTree} (ht : t.WellFormed) {p : Path} :
    (∃ e, collectInput t p = .error e) ↔ t.find? p = none := by
  unfold collectInput
  split
  · rename_i hdirectory
    have hsome : t.find? p ≠ none := by
      intro hnone
      simp [isDirectory, hnone] at hdirectory
    simp only [exists_error_mapM_iff, exists_error_readScript_iff, iff_false_intro hsome, iff_false]
    -- What is found below a directory is there when it is read.
    rintro ⟨q, hq, hnone⟩
    exact find?_ne_none_of_mem_scriptsBelow ht hq hnone
  · rw [← exists_error_readScript_iff]
    cases readScript t p <;> simp [Except.map]

/-- **Scripts cannot be collected** exactly if an input does not exist. -/
theorem exists_error_collectScripts_iff {t : FileTree} (ht : t.WellFormed) {inputs : List Path} :
    (∃ e, collectScripts t inputs = .error e) ↔ ∃ p ∈ inputs, t.find? p = none := by
  have hinputs := exists_error_mapM_iff (f := collectInput t) (l := inputs)
  simp only [exists_error_collectInput_iff ht] at hinputs
  rw [← hinputs, collectScripts]
  cases inputs.mapM (collectInput t) <;> simp [Except.map]

end LuaAccessors
