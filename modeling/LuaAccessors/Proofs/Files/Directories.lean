import LuaAccessors.Proofs.Files.Tree
import Mathlib.Data.List.Induction

/-!
# Making directories

A directory is made with all that lead to it, unless a file stands in the way. Files are never touched, and
what has been made stays where it is, also if the rest cannot be made.

- `WellFormed`, `GrowsTo`: trees as there are in a file system, and a tree that gets more directories;
- `destination`: where a path leads if it goes through directories only;
- `locate_child`, `eq_destination_of_locate`: where a path leads in a tree;
- `Blocked`: a file stands in the way of a path;
- `ensureDirectory_eq`: a single directory;
- `Makes`, `makes_makeDirectories`: a directory with all that lead to it.
-/

namespace LuaAccessors

/-! ## §1 Paths from the top -/

/-- What holds where a path starts and goes on with every component holds of the path. -/
@[elab_as_elim]
theorem Path.induction {motive : Path → Prop} (top : ∀ isAbsolute, motive { isAbsolute })
    (child : ∀ (p : Path) (name : Text), motive p → motive (p.child name)) (p : Path) : motive p := by
  obtain ⟨isAbsolute, parts⟩ := p
  induction parts using List.reverseRecOn with
  | nil => exact top isAbsolute
  | append_singleton parts name ih => exact child _ name ih

@[simp]
theorem Path.parent_child (p : Path) (name : Text) : (p.child name).parent = p := by
  simp [Path.parent, Path.child]

namespace FileTree

/-! ## §2 Well-formed trees -/

/-- A tree as there are in a file system. -/
structure WellFormed (t : FileTree) : Prop where
  /-- Every entry stands in a directory. -/
  inDirectory : ∀ e ∈ t, node? t e.1.dropLast = some .directory
  /-- No entry is called like the directory above. -/
  named : ∀ e ∈ t, e.1.getLast? ≠ some "..".toList

theorem exists_mem_of_node? {t : FileTree} {key : List Text} (htop : isTop key = false)
    (h : node? t key ≠ none) : ∃ node, (key, node) ∈ t := by
  rw [node?, if_neg (by simp [htop])] at h
  obtain ⟨node, hnode⟩ := Option.ne_none_iff_exists'.1 h
  obtain ⟨before, after, hsplit, -⟩ := List.lookup_eq_some_iff.1 hnode
  exact ⟨node, by simp [hsplit]⟩

theorem node?_ne_none_of_mem {t : FileTree} {key : List Text} {node : Node} (h : (key, node) ∈ t) :
    node? t key ≠ none := by
  unfold node?
  split
  · simp
  · intro hnone
    simpa using List.lookup_eq_none_iff.1 hnone _ h

/-- What leads to a place where paths start, or above there, leads through such places. -/
theorem isTop_of_append {a b : List Text} (h : isTop (a ++ b) = true) : isTop a = true := by
  simp only [isTop, Bool.or_eq_true, beq_iff_eq, List.all_append, Bool.and_eq_true] at h ⊢
  rcases h with h | h
  · rcases List.append_eq_singleton_iff.1 h with ⟨rfl, -⟩ | ⟨rfl, -⟩
    · exact .inr rfl
    · exact .inl rfl
  · exact .inr h.1

/-- Whatever is in the tree stands in a directory. -/
theorem WellFormed.node?_dropLast {t : FileTree} (ht : WellFormed t) {key : List Text}
    (h : node? t key ≠ none) : node? t key.dropLast = some .directory := by
  cases htop : isTop key with
  -- Where paths start and above there are directories without entries.
  | true =>
    have hdrop : isTop key.dropLast = true := by
      rcases List.eq_nil_or_concat key with rfl | ⟨upper, last, rfl⟩
      · rfl
      · rw [List.concat_eq_append] at htop ⊢
        rw [List.dropLast_concat]
        exact isTop_of_append htop
    rw [node?, if_pos hdrop]
  | false =>
    obtain ⟨node, hmem⟩ := exists_mem_of_node? htop h
    exact ht.inDirectory _ hmem

/-- Above a directory there is a directory. -/
theorem WellFormed.node?_above {t : FileTree} (ht : WellFormed t) {key : List Text}
    (h : node? t key = some .directory) : node? t (above key) = some .directory := by
  unfold above
  split
  · exact h
  split
  · rename_i htop
    have hall : key.all (· == ['.', '.']) = true := by
      simpa [isTop, *] using htop
    have htop' : isTop (key ++ [['.', '.']]) = true := by simp [isTop, hall]
    rw [node?, if_pos htop']
  · exact ht.node?_dropLast (by simp [h])

theorem mem_put {t : FileTree} {key : List Text} {node : Node} {e : List Text × Node}
    (h : e ∈ put t key node) : e = (key, node) ∨ e ∈ t := by
  induction t with
  | nil => exact .inl (List.mem_singleton.1 h)
  | cons first rest ih =>
    obtain ⟨k, n⟩ := first
    rw [put] at h
    split at h
    · rename_i hk
      rcases List.mem_cons.1 h with rfl | h
      · exact .inl (by rw [hk])
      · exact .inr (List.mem_cons_of_mem _ h)
    · rcases List.mem_cons.1 h with rfl | h
      · exact .inr List.mem_cons_self
      · exact (ih h).imp_right (List.mem_cons_of_mem _)

/-- **A tree stays well-formed** when something is put in a directory, unless it takes the place of one. -/
theorem WellFormed.put {t : FileTree} (ht : WellFormed t) {directory : List Text} {name : Text}
    (hname : name ≠ "..".toList) (hdirectory : node? t directory = some .directory)
    (hnode : node? t (directory ++ [name]) ≠ some .directory) (node : Node) :
    WellFormed (put t (directory ++ [name]) node) := by
  -- What is a directory is not the place of the new entry, so it stays one.
  have hkept : ∀ key, node? t key = some .directory →
      node? (FileTree.put t (directory ++ [name]) node) key = some .directory := by
    intro key hkey
    have hne : key ≠ directory ++ [name] := by
      rintro rfl
      exact hnode hkey
    rw [node?_put_of_ne hne, hkey]
  constructor
  case inDirectory =>
    intro e he
    rcases mem_put he with rfl | he
    · rw [List.dropLast_concat]
      exact hkept _ hdirectory
    · exact hkept _ (ht.inDirectory e he)
  case named =>
    intro e he
    rcases mem_put he with rfl | he
    · simpa using hname
    · exact ht.named e he

/-! ## §3 Trees that grow

Output directories are made one after the other, and each one has to last. So what is proved about one step is
that no entry is lost and that ways which have led somewhere still do.
-/

/-- The later tree has all that the earlier one has, and nothing besides but directories. -/
def GrowsTo (t t' : FileTree) : Prop :=
  ∀ key, node? t' key = node? t key ∨ (node? t key = none ∧ node? t' key = some .directory)

theorem GrowsTo.refl (t : FileTree) : GrowsTo t t := fun _ => .inl rfl

theorem GrowsTo.trans {t u v : FileTree} (h : GrowsTo t u) (h' : GrowsTo u v) : GrowsTo t v := by
  intro key
  rcases h' key with hv | ⟨hu, hv⟩
  · rw [hv]
    exact h key
  · rcases h key with heq | ⟨-, hdirectory⟩
    · exact .inr ⟨heq.symm.trans hu, hv⟩
    · simp [hu] at hdirectory

/-- No file is created, changed or lost. -/
theorem GrowsTo.file_iff {t t' : FileTree} (h : GrowsTo t t') (key : List Text) (content : FileContent) :
    t'.node? key = some (.file content) ↔ t.node? key = some (.file content) := by
  rcases h key with heq | ⟨hnone, hdirectory⟩
  · rw [heq]
  · simp [hnone, hdirectory]

/-- A directory is put where there is nothing. -/
theorem growsTo_put {t : FileTree} {key : List Text} (h : node? t key = none) :
    GrowsTo t (put t key .directory) := by
  have hne : node? t key ≠ some .directory := by simp [h]
  have htop := isTop_eq_false_of_node? hne
  intro k
  by_cases hk : k = key
  · rw [hk, node?_put_self htop]
    exact .inr ⟨h, rfl⟩
  · exact .inl (node?_put_of_ne hk _)

/-! ## §4 Where paths lead

A path may go up again with two dots. In a well-formed tree this leads to the directory above, so where a path
leads can be computed from its components alone once all directories on the way are there.
-/

/-- Where a path leads if it goes through directories only. -/
def destination (p : Path) : List Text := p.parts.foldl next (start p)

theorem destination_child (p : Path) (name : Text) :
    destination (p.child name) = next (destination p) name := by
  rw [destination, Path.child, List.foldl_append]
  rfl

theorem locate_top (t : FileTree) (isAbsolute : Bool) :
    locate t { isAbsolute } = .ok (destination { isAbsolute }) := rfl

theorem node?_top (t : FileTree) (isAbsolute : Bool) :
    node? t (destination { isAbsolute }) = some .directory := by
  cases isAbsolute <;> rfl

/-- Where a path leads with one more component. -/
theorem locate_child (t : FileTree) (p : Path) (name : Text) :
    locate t (p.child name) =
      match locate t p with
      | .error fault => .error fault
      | .ok key =>
        match node? t key with
        | none => .error .missing
        | some (.file _) => .error .notADirectory
        | some .directory => .ok (next key name) :=
  walk_concat t (start p) p.parts name

theorem locate_child_eq_ok {t : FileTree} {p : Path} {name : Text} {key : List Text}
    (h : locate t (p.child name) = .ok key) :
    ∃ above, locate t p = .ok above ∧ node? t above = some .directory ∧ key = next above name := by
  rw [locate_child] at h
  split at h
  · cases h
  · rename_i above habove
    split at h
    · cases h
    · cases h
    · rename_i hnode
      exact ⟨above, habove, hnode, (Except.ok.inj h).symm⟩

/-- A path leads to its destination if it leads anywhere. -/
theorem eq_destination_of_locate {t : FileTree} {p : Path} {key : List Text} (h : locate t p = .ok key) :
    key = destination p := by
  induction p using Path.induction generalizing key with
  | top isAbsolute => exact (Except.ok.inj h).symm
  | child p name ih =>
    obtain ⟨above, habove, -, rfl⟩ := locate_child_eq_ok h
    rw [destination_child, ih habove]

/-- A file stands in the way of the path, or where it leads. -/
def Blocked (t : FileTree) (p : Path) : Prop :=
  ∃ parts content, parts <+: p.parts ∧ node? t (parts.foldl next (start p)) = some (.file content)

theorem blocked_top (t : FileTree) (isAbsolute : Bool) : ¬Blocked t { isAbsolute } := by
  rintro ⟨parts, content, hparts, hnode⟩
  obtain rfl := List.prefix_nil.1 hparts
  have htop := node?_top t isAbsolute
  exact absurd (hnode.symm.trans htop) (by simp)

theorem blocked_child {t : FileTree} {p : Path} {name : Text} :
    Blocked t (p.child name) ↔
      Blocked t p ∨ ∃ content, node? t (destination (p.child name)) = some (.file content) := by
  constructor
  · rintro ⟨parts, content, hparts, hnode⟩
    rcases List.prefix_concat_iff.1 hparts with rfl | hparts
    · exact .inr ⟨content, hnode⟩
    · exact .inl ⟨parts, content, hparts, hnode⟩
  · rintro (⟨parts, content, hparts, hnode⟩ | ⟨content, hnode⟩)
    · exact ⟨parts, content, hparts.trans (List.prefix_append _ _), hnode⟩
    · exact ⟨_, content, List.prefix_refl _, hnode⟩

/-- Directories do not stand in the way. -/
theorem GrowsTo.blocked_iff {t t' : FileTree} (h : GrowsTo t t') {p : Path} :
    Blocked t' p ↔ Blocked t p := by
  simp only [Blocked, h.file_iff]

/-- A path that leads somewhere is blocked only by a file there. -/
theorem blocked_iff_of_locate {t : FileTree} {p : Path} {key : List Text} (h : locate t p = .ok key) :
    Blocked t p ↔ ∃ content, node? t key = some (.file content) := by
  obtain rfl := eq_destination_of_locate h
  induction p using Path.induction with
  | top isAbsolute => simp [blocked_top, node?_top]
  | child p name ih =>
    obtain ⟨above, habove, hnode, -⟩ := locate_child_eq_ok h
    obtain rfl := eq_destination_of_locate habove
    have hopen : ¬Blocked t p := by simp [ih habove, hnode]
    rw [blocked_child, or_iff_right hopen]

theorem blocked_of_locate {t : FileTree} {p : Path} (h : locate t p = .error .notADirectory) :
    Blocked t p := by
  induction p using Path.induction with
  | top isAbsolute => cases h
  | child p name ih =>
    apply blocked_child.2
    rw [locate_child] at h
    -- The file stands before the last component: either further up or where the path has led so far.
    split at h
    · rename_i fault hfault
      exact .inl (ih (hfault.trans h))
    · rename_i above habove
      split at h
      · cases h
      · rename_i content hnode
        exact .inl ((blocked_iff_of_locate habove).2 ⟨content, hnode⟩)
      · cases h

/-- A path that leads to no directory leads to a name in one. -/
theorem WellFormed.exists_name {t : FileTree} (ht : WellFormed t) {p : Path} {key : List Text}
    (h : locate t p = .ok key) (hnode : node? t key ≠ some .directory) :
    ∃ directory name, key = directory ++ [name] ∧ name ≠ "..".toList ∧
      node? t directory = some .directory := by
  induction p using Path.induction with
  | top isAbsolute =>
    obtain rfl := eq_destination_of_locate h
    exact absurd (node?_top t isAbsolute) hnode
  | child p name ih =>
    obtain ⟨directory, -, hdirectory, rfl⟩ := locate_child_eq_ok h
    unfold next at hnode ⊢
    -- Two dots lead to a directory again, so the last component is a name.
    split at hnode
    · exact absurd (ht.node?_above hdirectory) hnode
    · rename_i hname
      exact ⟨directory, name, if_neg hname, hname, hdirectory⟩

/-- A tree stays well-formed when something is put where a path leads, unless it takes the place of a
directory. -/
theorem WellFormed.put_of_locate {t : FileTree} (ht : WellFormed t) {p : Path} {key : List Text}
    (h : locate t p = .ok key) (hnode : node? t key ≠ some .directory) (node : Node) :
    WellFormed (FileTree.put t key node) := by
  obtain ⟨directory, name, rfl, hname, hdirectory⟩ := ht.exists_name h hnode
  exact ht.put hname hdirectory hnode node

/-! ## §5 Directories -/

/-- What becomes of a single directory. -/
theorem ensureDirectory_eq {t : FileTree} (ht : WellFormed t) (p : Path) :
    ensureDirectory t p =
      match locate t p with
      | .error .missing => .error (.missing p)
      | .error .notADirectory => .error (.notADirectory p)
      | .ok key =>
        match node? t key with
        | none => .ok (put t key .directory)
        | some (.file _) => .error (.exists p)
        | some .directory => .ok t := by
  rw [ensureDirectory, makeDirectory, isDirectory, find?]
  cases hlocate : locate t p with
  | error fault => cases fault <;> rfl
  | ok key =>
    cases hnode : node? t key with
    | none =>
      -- What is not a directory has a directory above it, so the last step of the way can be made.
      have hne : node? t key ≠ some .directory := by simp [hnode]
      obtain ⟨directory, name, rfl, -, hdirectory⟩ := ht.exists_name hlocate hne
      simp [hnode, hdirectory]
    | some node => cases node <;> simp [hnode]

/-- The directory of a path is there, and nothing else has changed but directories. -/
structure Made (t : FileTree) (p : Path) (t' : FileTree) : Prop where
  grows : GrowsTo t t'
  wellFormed : WellFormed t'
  leads : locate t' p = .ok (destination p)
  isDirectory : node? t' (destination p) = some .directory

/-- What comes of making a directory: it is there, or a file stands in its way. -/
inductive Makes (t : FileTree) (p : Path) : FileTree × Except FileFault Unit → Prop where
  | made {t' : FileTree} (hopen : ¬Blocked t p) (h : Made t p t') : Makes t p (t', .ok ())
  | blocked {t' : FileTree} {fault : FileFault} (hblocked : Blocked t p) (h : GrowsTo t t')
      (hformed : WellFormed t') : Makes t p (t', .error fault)

/-- Directories that have been made before do not matter. -/
theorem Makes.of_growsTo {t t' : FileTree} (h : GrowsTo t t') {p : Path}
    {r : FileTree × Except FileFault Unit} (hmakes : Makes t' p r) : Makes t p r := by
  cases hmakes with
  | made hopen hmade =>
    exact .made (mt h.blocked_iff.2 hopen) { hmade with grows := h.trans hmade.grows }
  | blocked hblocked hgrows hformed => exact .blocked (h.blocked_iff.1 hblocked) (h.trans hgrows) hformed

/-- What becomes of a directory when all is there that leads to it. -/
theorem ensureDirectory_cases {t : FileTree} (ht : WellFormed t) {p : Path}
    (hleads : locate t p = .ok (destination p)) :
    (∃ t', ensureDirectory t p = .ok t' ∧ ¬Blocked t p ∧ Made t p t') ∨
      (ensureDirectory t p = .error (.exists p) ∧ Blocked t p) := by
  have hensure := ensureDirectory_eq ht p
  have hblocked := blocked_iff_of_locate hleads
  -- Nothing is there and the directory is made, or a file is in the way, or there is nothing to do.
  cases hnode : node? t (destination p) with
  | none =>
    have hne : node? t (destination p) ≠ some .directory := by simp [hnode]
    simp only [hleads, hnode] at hensure
    refine .inl ⟨_, hensure, by simp [hblocked, hnode], ?_⟩
    constructor
    case grows => exact growsTo_put hnode
    case wellFormed => exact ht.put_of_locate hleads hne .directory
    case leads => exact walk_put hne _ hleads
    case isDirectory => exact node?_put_self (isTop_eq_false_of_node? hne) _
  | some node =>
    cases node with
    | file content =>
      simp only [hleads, hnode] at hensure
      exact .inr ⟨hensure, hblocked.2 ⟨content, hnode⟩⟩
    | directory =>
      simp only [hleads, hnode] at hensure
      exact .inl ⟨t, hensure, by simp [hblocked, hnode], .refl t, ht, hleads, hnode⟩

/-- **A directory can be made** exactly if no file stands in its way. -/
theorem makes_makeDirectories {t : FileTree} (ht : WellFormed t) (p : Path) :
    Makes t p (makeDirectories t p) := by
  induction p using Path.induction with
  | top isAbsolute =>
    rw [makeDirectories]
    rcases ensureDirectory_cases ht (locate_top t isAbsolute) with
      ⟨t', hensure, hopen, hmade⟩ | ⟨-, hblocked⟩
    · rw [hensure]
      exact .made hopen hmade
    · exact absurd hblocked (blocked_top t isAbsolute)
  | child p name ih =>
    have hparts : (p.child name).parts ≠ [] := by simp [Path.child]
    rw [makeDirectories, Path.parent_child]
    cases hlocate : locate t (p.child name) with
    | ok key =>
      obtain rfl := eq_destination_of_locate hlocate
      rcases ensureDirectory_cases ht hlocate with ⟨t', hensure, hopen, hmade⟩ | ⟨hensure, hblocked⟩
      · rw [hensure]
        exact .made hopen hmade
      · rw [hensure]
        exact .blocked hblocked (.refl t) ht
    | error fault =>
      have hensure := ensureDirectory_eq ht (p.child name)
      simp only [hlocate] at hensure
      cases fault with
      | notADirectory =>
        rw [hensure]
        exact .blocked (blocked_of_locate hlocate) (.refl t) ht
      | missing =>
        -- What leads to the directory is made first, and `ih` says what comes of that.
        simp only [hensure, dif_neg hparts]
        generalize makeDirectories t p = above at ih
        cases ih with
        | blocked hblocked hgrows hformed =>
          exact .blocked (blocked_child.2 (.inl hblocked)) hgrows hformed
        | @made t' hopen hmade =>
          -- Now all is there that leads to the directory.
          have hleads : locate t' (p.child name) = .ok (destination (p.child name)) := by
            rw [locate_child, hmade.leads, destination_child]
            simp only [hmade.isDirectory]
          apply Makes.of_growsTo hmade.grows
          rcases ensureDirectory_cases hmade.wellFormed hleads with
            ⟨t'', hensure, hopen, hmade⟩ | ⟨hensure, hblocked⟩
          · simp only [hensure]
            exact .made hopen hmade
          · simp only [hensure]
            exact .blocked hblocked (.refl t') hmade.wellFormed

end FileTree

end LuaAccessors
