import Mathlib.Tactic.Common
import LuaAccessors.Files.Tree

/-!
# Writing into a tree

What a tree holds after a file has been written: the new text where the path leads, and everywhere else what
it held before. No directory is touched, so paths that led somewhere lead there still.

- `node?_put_of_ne`, `node?_put_self`: the entries of a tree with one more;
- `walk_cons`, `walk_concat`: the first and the last step of the way that a path leads;
- `walk_snoc`: a path is the way to a directory and a name in it;
- `walk_put`: a file that is put does not change where paths lead;
- `writeText_eq_ok`, `readText_eq_ok`: what writing and reading come to;
- `Holds`: the text that the file of a path holds.
-/

namespace LuaAccessors.FileTree

/-! ## §1 Entries -/

theorem lookup_cons_eq (k key : List Text) (node : Node) (t : FileTree) :
    List.lookup k ((key, node) :: t) = if k = key then some node else t.lookup k := by
  rw [List.lookup_cons]
  split
  · rename_i h
    rw [if_pos (beq_iff_eq.1 h)]
  · rename_i h
    rw [if_neg (beq_eq_false_iff_ne.1 h)]

theorem lookup_put (t : FileTree) (key k : List Text) (node : Node) :
    (put t key node).lookup k = if k = key then some node else t.lookup k := by
  induction t with
  | nil => exact lookup_cons_eq k key node []
  | cons e rest ih =>
    obtain ⟨first, n⟩ := e
    rw [put]
    split
    · rename_i hfirst
      rw [lookup_cons_eq, lookup_cons_eq, hfirst]
      split <;> rfl
    · rename_i hfirst
      rw [lookup_cons_eq, lookup_cons_eq, ih]
      -- Entries in front of the place are passed over, and have other keys.
      by_cases hk : k = first
      · have hne : k ≠ key := fun h => hfirst (hk.symm.trans h)
        rw [if_pos hk, if_pos hk, if_neg hne]
      · rw [if_neg hk, if_neg hk]

theorem node?_put_of_ne {t : FileTree} {key k : List Text} (h : k ≠ key) (node : Node) :
    node? (put t key node) k = node? t k := by
  rw [node?, node?, lookup_put, if_neg h]

theorem node?_put_self {t : FileTree} {key : List Text} (h : isTop key = false) (node : Node) :
    node? (put t key node) key = some node := by
  simp [node?, h, lookup_put]

/-- Only where paths start are there directories that no entry stands for. -/
theorem isTop_eq_false_of_node? {t : FileTree} {key : List Text} (h : node? t key ≠ some .directory) :
    isTop key = false := by
  rw [Bool.eq_false_iff]
  intro htop
  exact h (by rw [node?, if_pos htop])

/-! ## §2 Ways

A way is walked component by component, and each component needs a directory to stand in.
-/

/-- Where one component of a path leads from a directory. -/
def next (key : List Text) (part : Text) : List Text :=
  if part = "..".toList then above key else key ++ [part]

/-- Where a way leads that begins with a component. -/
theorem walk_cons (t : FileTree) (key parts : List Text) (part : Text) :
    walk t key (part :: parts) =
      match node? t key with
      | none => .error .missing
      | some (.file _) => .error .notADirectory
      | some .directory => walk t (next key part) parts := by
  rw [walk]
  cases hnode : node? t key with
  | none => rfl
  | some node =>
    cases node with
    | file content => rfl
    | directory => exact (apply_ite (walk t · parts) _ _ _).symm

/-- Where a way leads that ends with a component. -/
theorem walk_concat (t : FileTree) (key parts : List Text) (part : Text) :
    walk t key (parts ++ [part]) =
      match walk t key parts with
      | .error fault => .error fault
      | .ok last =>
        match node? t last with
        | none => .error .missing
        | some (.file _) => .error .notADirectory
        | some .directory => .ok (next last part) := by
  -- The way is taken from its start, so the induction goes along it with any place to start from.
  induction parts generalizing key with
  | nil => exact walk_cons t key [] part
  | cons first rest ih =>
    rw [List.cons_append, walk_cons, walk_cons]
    cases hnode : node? t key with
    | none => rfl
    | some node =>
      cases node with
      | file content => rfl
      | directory => exact ih _

/-- **A way goes on from a directory** to where its first component leads. -/
theorem walk_cons_eq_ok_iff {t : FileTree} {key parts target : List Text} {part : Text} :
    walk t key (part :: parts) = .ok target ↔
      node? t key = some .directory ∧ walk t (next key part) parts = .ok target := by
  rw [walk_cons]
  cases hnode : node? t key with
  | none => simp
  | some node => cases node <;> simp

/-- A way goes on from where its start leads. -/
theorem walk_append {t : FileTree} {key last parts : List Text} (h : walk t key parts = .ok last)
    (rest : List Text) : walk t key (parts ++ rest) = walk t last rest := by
  induction parts generalizing key with
  | nil =>
    obtain rfl := Except.ok.inj h
    rfl
  | cons part parts ih =>
    obtain ⟨hnode, hrest⟩ := walk_cons_eq_ok_iff.1 h
    rw [List.cons_append, walk_cons, hnode]
    exact ih hrest

/-- A path with a name at its end leads to the name in the directory that the rest leads to. -/
theorem walk_snoc {t : FileTree} {name : Text} (hname : name ≠ "..".toList) {parts : List Text}
    {key target : List Text} (h : walk t key (parts ++ [name]) = .ok target) :
    ∃ directory, walk t key parts = .ok directory ∧ node? t directory = some .directory ∧
      target = directory ++ [name] := by
  rw [walk_concat] at h
  split at h
  · cases h
  · rename_i directory hdirectory
    split at h
    · cases h
    · cases h
    · rename_i hnode
      rw [next, if_neg hname] at h
      exact ⟨directory, hdirectory, hnode, (Except.ok.inj h).symm⟩

/-- What leads somewhere leads there still when an entry that is no directory changes. -/
theorem walk_put {t : FileTree} {key : List Text} (hkey : node? t key ≠ some .directory) (node : Node)
    {parts : List Text} {start target : List Text} (h : walk t start parts = .ok target) :
    walk (put t key node) start parts = .ok target := by
  induction parts generalizing start with
  | nil => exact h
  | cons part parts ih =>
    obtain ⟨hnode, hrest⟩ := walk_cons_eq_ok_iff.1 h
    -- The way goes through directories only, so it does not meet the entry.
    have hne : start ≠ key := by
      rintro rfl
      exact hkey hnode
    apply walk_cons_eq_ok_iff.2
    exact ⟨(node?_put_of_ne hne node).trans hnode, ih hrest⟩

/-! ## §3 Reading and writing -/

/-- A path leads to an entry. -/
theorem find?_eq_some_iff {t : FileTree} {p : Path} {key : List Text} {node : Node} :
    find? t p = some (key, node) ↔ locate t p = .ok key ∧ node? t key = some node := by
  unfold find?
  cases hlocate : locate t p with
  | error fault => simp
  | ok last =>
    simp only [Option.map_eq_some_iff, Prod.mk.injEq, Except.ok.injEq]
    constructor
    · rintro ⟨found, hfound, rfl, rfl⟩
      exact ⟨rfl, hfound⟩
    · rintro ⟨rfl, hnode⟩
      exact ⟨node, hnode, rfl, rfl⟩

theorem writeText_eq_ok {t t' : FileTree} {p : Path} {text : Text} (h : writeText t p text = .ok t') :
    ∃ key, locate t p = .ok key ∧ node? t key ≠ some .directory ∧
      t' = put t key (.file (.text text)) := by
  unfold writeText at h
  split at h
  · cases h
  · cases h
  · rename_i key hkey
    split at h
    · cases h
    · rename_i hnode
      exact ⟨key, hkey, hnode, (Except.ok.inj h).symm⟩

theorem readText_eq_ok {t : FileTree} {p : Path} {text : Text} (h : readText t p = .ok text) :
    ∃ key u, locate t p = .ok key ∧ node? t key = some (.file (.text u)) ∧
      u.normalizeLineEnds = text := by
  unfold readText at h
  split at h
  · cases h
  · cases h
  · cases h
  · rename_i key u hfind
    obtain ⟨hkey, hnode⟩ := find?_eq_some_iff.1 hfind
    exact ⟨key, u, hkey, hnode, Except.ok.inj h⟩

/-- The file that a path leads to holds a text, as it is or with other line ends. -/
def Holds (t : FileTree) (p : Path) (text : Text) : Prop :=
  ∃ key u, locate t p = .ok key ∧ node? t key = some (.file (.text u)) ∧
    (u = text ∨ u.normalizeLineEnds = text)

theorem holds_of_readText {t : FileTree} {p : Path} {text : Text} (h : readText t p = .ok text) :
    t.Holds p text := by
  obtain ⟨key, u, hkey, hnode, hu⟩ := readText_eq_ok h
  exact ⟨key, u, hkey, hnode, .inr hu⟩

/-- Texts that one file holds differ in line ends only. -/
theorem Holds.eq_or_normalizeLineEnds_eq {t : FileTree} {p : Path} {a b : Text} (ha : t.Holds p a)
    (hb : t.Holds p b) : a = b ∨ a.normalizeLineEnds = b ∨ b.normalizeLineEnds = a := by
  obtain ⟨key, u, hkey, hnode, hu⟩ := ha
  obtain ⟨key', u', hkey', hnode', hu'⟩ := hb
  obtain rfl : key = key' := Except.ok.inj (hkey.symm.trans hkey')
  obtain rfl : u = u' := by
    rw [hnode] at hnode'
    cases hnode'
    rfl
  -- The file holds one text, and each of the two is that text or what is read of it.
  rcases hu with rfl | rfl
  · exact hu'.imp_right .inl
  · rcases hu' with rfl | rfl
    · exact .inr (.inr rfl)
    · exact .inl rfl

/-- **What has been written is there.** -/
theorem holds_of_writeText {t t' : FileTree} {p : Path} {text : Text} (h : writeText t p text = .ok t') :
    t'.Holds p text := by
  obtain ⟨key, hkey, hnode, rfl⟩ := writeText_eq_ok h
  exact ⟨key, text, walk_put hnode _ hkey, node?_put_self (isTop_eq_false_of_node? hnode) _, .inl rfl⟩

/-- **Other files are as they were.** -/
theorem Holds.writeText {t t' : FileTree} {p q : Path} {text other : Text} (h : t.Holds q other)
    (hwrite : writeText t p text = .ok t') (hne : locate t q ≠ locate t p) : t'.Holds q other := by
  obtain ⟨key, hkey, hnode, rfl⟩ := writeText_eq_ok hwrite
  obtain ⟨key', u, hkey', hnode', hu⟩ := h
  have hkeys : key' ≠ key := by
    rintro rfl
    exact hne (hkey'.trans hkey.symm)
  exact ⟨key', u, walk_put hnode _ hkey', (node?_put_of_ne hkeys _).trans hnode', hu⟩

end LuaAccessors.FileTree
